/-
Module: TensorLogic.Sat.Propagation
Purpose: Drawing the consequences of the literals that are true so far.
Main exports: Sat.Trail.replacement?, Sat.Trail.visitWatches, Sat.Trail.propagate
-/
import TensorLogic.Sat.Trail

namespace TensorLogic.Sat.Trail

/-!
When a watched literal becomes false, its clause looks for another one to watch.  If there is none, the other
watched literal is forced; and if that is false, too, there is a conflict.
-/

/-- The place of a literal in a clause that is not false and not the given one, looked for from a place on, at
no more than so many places. -/
def replacement? (values : Array Standing) (clause : Array Nat) (other : Nat) (place : Nat) :
    (places : Nat) → Option Nat
  | 0 => none
  | places + 1 =>
      let place := if place < clause.size then place else 0
      let code := clause.getD place 0
      if code != other && values.getD code .unknown != .refuted then some place
      else replacement? values clause other (place + 1) places

/-- Visit the clauses from a place on that watch a literal which has become false.  The result is the clause
with a conflict, if there is one, and the clauses that go on watching. -/
def visitWatches (state : Trail) (refuted : Nat) (waiting : Array Nat) (place : Nat)
    (kept : Array Nat) : Option Nat × Array Nat × Trail :=
  if inside : place < waiting.size then
    let number := waiting[place]
    let first := state.firsts.getD number 0
    let other := if first = refuted then state.seconds.getD number 0 else first
    if state.value other == .satisfied then
      visitWatches state refuted waiting (place + 1) (kept.push number)
    else
      let clause := state.clauses.getD number #[]
      match replacement? state.values clause other (state.cursors.getD number 0) clause.size with
      | some found =>
          let code := clause.getD found 0
          let moved :=
            if first = refuted then
              { state with
                firsts := state.firsts.setIfInBounds number code
                cursors := state.cursors.setIfInBounds number found
                watches := state.watches.modify code (·.push number) }
            else
              { state with
                seconds := state.seconds.setIfInBounds number code
                cursors := state.cursors.setIfInBounds number found
                watches := state.watches.modify code (·.push number) }
          visitWatches moved refuted waiting (place + 1) kept
      | none =>
          if state.value other == .refuted then
            (some number, kept ++ waiting.extract place waiting.size, state)
          else
            visitWatches (state.assign other number) refuted waiting (place + 1)
              (kept.push number)
  else (none, kept, state)
termination_by waiting.size - place

/-- Draw the consequences of no more than so many true literals.  The result is the clause with a conflict, if
there is one. -/
def propagateFor (state : Trail) : (literals : Nat) → Option Nat × Trail
  | 0 => (none, state)
  | literals + 1 =>
      match state.trail[state.head]? with
      | none => (none, state)
      | some code =>
          let refuted := opposite code
          let waiting := state.watches.getD refuted #[]
          let (conflict?, kept, visited) := visitWatches
            { state with
              watches := state.watches.setIfInBounds refuted #[]
              head := state.head + 1 } refuted waiting 0 #[]
          let next := { visited with watches := visited.watches.setIfInBounds refuted kept }
          match conflict? with
          | some conflict => (some conflict, next)
          | none => propagateFor next literals

/-- Draw all consequences of the true literals. -/
def propagate (state : Trail) : Option Nat × Trail := propagateFor state state.values.size

end TensorLogic.Sat.Trail
