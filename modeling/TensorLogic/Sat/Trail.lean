/-
Module: TensorLogic.Sat.Trail
Purpose: The state of a search that learns: the literals that are true so far, and the clauses watched.
Main exports: Sat.Trail, Sat.Trail.assign, Sat.Trail.decide, Sat.Trail.backtrack, Sat.Trail.watch,
  Sat.Trail.create
-/
import TensorLogic.Sat.Derivation
import TensorLogic.Sat.Order

namespace TensorLogic.Sat

/-!
A search makes literals true one after the other: some by decision, each of which opens a level, and others
because a clause forces them.  To take a level back is to forget the literals from its decision on.

Two literals of every clause are watched.  As long as neither is false, the clause forces nothing and is not
looked at.
-/

/-- No clause. -/
def noClause : Nat := 0xffffffffffff

/-- What a literal can be under the decisions so far. -/
inductive Standing where
  | unknown
  | satisfied
  | refuted
deriving Repr, DecidableEq, Inhabited

/-- The state of a search. -/
structure Trail where
  /-- The clauses: first those of the formula, then those that were learned. -/
  clauses : Array (Array Nat)
  /-- The two watched literals of each clause, and the place from which a new one is looked for. -/
  firsts : Array Nat
  seconds : Array Nat
  cursors : Array Nat
  /-- For each literal the clauses that watch it. -/
  watches : Array (Array Nat)
  /-- What each literal is. -/
  values : Array Standing
  /-- For each variable its level, the clause that forced it, its place on the trail, and the literal of it
  that is decided first. -/
  levels : Array Nat
  reasons : Array Nat
  places : Array Nat
  phases : Array Nat
  /-- The true literals in the order in which they became true, the number of them before each decision, and
  the number of those whose consequences are drawn. -/
  trail : Array Nat
  limits : Array Nat
  head : Nat
  /-- The order in which variables are decided. -/
  order : Order
  /-- No variable below this number is open, unless it may have any value. -/
  scan : Nat

namespace Trail

/-- What a literal is. -/
def value (state : Trail) (code : Nat) : Standing := state.values.getD code .unknown

/-- The number of decisions. -/
def level (state : Trail) : Nat := state.limits.size

/-- Make a literal true, with the clause that forces it. -/
def assign (state : Trail) (code reason : Nat) : Trail :=
  let number := numberOf code
  { state with
    values := (state.values.setIfInBounds code .satisfied).setIfInBounds (opposite code) .refuted
    levels := state.levels.setIfInBounds number state.limits.size
    reasons := state.reasons.setIfInBounds number reason
    places := state.places.setIfInBounds number state.trail.size
    trail := state.trail.push code }

/-- Make a literal true by decision. -/
def decide (state : Trail) (code : Nat) : Trail :=
  assign { state with limits := state.limits.push state.trail.size } code noClause

/-- Forget the latest true literals until only so many are left. -/
def shrink (state : Trail) (size : Nat) : (steps : Nat) → Trail
  | 0 => state
  | steps + 1 =>
      if state.trail.size ≤ size then state
      else
        match state.trail.back? with
        | none => state
        | some code =>
            let number := numberOf code
            shrink { state with
              trail := state.trail.pop
              values := (state.values.setIfInBounds code .unknown).setIfInBounds (opposite code)
                .unknown
              phases := state.phases.setIfInBounds number code
              order := state.order.insert number
              scan := if number < state.scan then number else state.scan } size steps

/-- Take back all levels above the given one. -/
def backtrack (state : Trail) (level : Nat) : Trail :=
  match state.limits[level]? with
  | none => state
  | some size =>
      let shorter := state.shrink size (state.trail.size - size)
      { shorter with limits := shorter.limits.shrink level, head := size }

/-- Let a clause watch two of its literals. -/
def watch (state : Trail) (clause first second : Nat) : Trail :=
  { state with
    firsts := state.firsts.setIfInBounds clause first
    seconds := state.seconds.setIfInBounds clause second
    watches := (state.watches.modify first (·.push clause)).modify second (·.push clause) }

/-- Add a clause, which nothing watches yet. -/
def addClause (state : Trail) (clause : Array Nat) : Trail :=
  { state with
    clauses := state.clauses.push clause
    firsts := state.firsts.push 0
    seconds := state.seconds.push 0
    cursors := state.cursors.push 0 }

/-- Let a clause be the reason for the literal that a variable has. -/
def giveReason (state : Trail) (number clause : Nat) : Trail :=
  { state with reasons := state.reasons.setIfInBounds number clause }

/-- The clauses that force the values of the literals of a clause other than the given one. -/
def reasonsOf (state : Trail) (clause : Array Nat) (except : Nat) : List Nat :=
  clause.toList.filterMap fun code =>
    if code = except then none else some (state.reasons.getD (numberOf code) noClause)

/-- Take the variable out of the order that comes first in it, if there is one. -/
def takeFirst (state : Trail) : Option Nat × Trail :=
  let (number?, order) := state.order.pop
  (number?, { state with order })

/-- Note which variables took part in a conflict. -/
def credit (state : Trail) (numbers : Array Nat) : Trail :=
  { state with order := (numbers.foldl Order.bump state.order).decay }

/-- The state without clauses over the variables below a number.  Each variable is decided as the preferred
value says first. -/
def create (preferred : Bool) (count : Nat) : Trail where
  clauses := #[]
  firsts := #[]
  seconds := #[]
  cursors := #[]
  watches := Array.replicate (2 * count) #[]
  values := Array.replicate (2 * count) .unknown
  levels := Array.replicate count 0
  reasons := Array.replicate count noClause
  places := Array.replicate count 0
  phases := (Array.range count).map fun number => 2 * number + (if preferred then 0 else 1)
  trail := #[]
  limits := #[]
  head := 0
  order := .create count
  scan := 0

end Trail

end TensorLogic.Sat
