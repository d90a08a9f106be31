/-
Module: TensorLogic.Sat.Conflict
Purpose: What a conflict teaches: a clause that would have avoided it, and its grounds.
Main exports: Sat.Conflict, Sat.Lesson, Sat.Conflict.analyse
-/
import TensorLogic.Sat.Trail

namespace TensorLogic.Sat

/-!
A conflict is a clause all of whose literals are false.  Of these, those of the present level are replaced by
what made them false, the latest first, until a single one is left.  The clause of that literal and of all
false literals of lower levels follows from the clauses that were looked at; after the latest levels are taken
back it forces its literal.

Literals of level zero are false in any case and are left out; each of them is forced by a clause that has no
other literal.
-/

/-- What is known while a conflict is looked into: which variables were seen, the number of those of the
present level that are still to be replaced, the literals of lower levels, the variables of level zero, those
of lower levels that were left out, and those of the present level that were replaced, the latest first. -/
structure Conflict where
  seen : Array Bool
  pending : Nat := 0
  lower : Array Nat := #[]
  settled : Array Nat := #[]
  implied : Array Nat := #[]
  replaced : Array Nat := #[]

/-- What a conflict teaches: the literal that is forced, the other literals of the clause, the variables that
were replaced, and the grounds. -/
structure Lesson where
  forced : Nat
  others : Array Nat
  replaced : Array Nat
  grounds : List Nat

namespace Conflict

/-- Look at a false literal. -/
def lookAt (state : Trail) (conflict : Conflict) (code : Nat) : Conflict :=
  let number := numberOf code
  if conflict.seen.getD number true then conflict
  else
    let noted := { conflict with seen := conflict.seen.setIfInBounds number true }
    let level := state.levels.getD number 0
    if level = 0 then { noted with settled := noted.settled.push number }
    else if level = state.level then { noted with pending := noted.pending + 1 }
    else { noted with lower := noted.lower.push code }

/-- Look at all literals of a clause but one. -/
def lookAtClause (state : Trail) (conflict : Conflict) (clause except : Nat) : Conflict :=
  (state.clauses.getD clause #[]).foldl
    (fun conflict code => if code = except then conflict else lookAt state conflict code) conflict

/-- Replace literals of the present level by their reasons, going back from a place of the trail, until a
single one is left.  It is the negation of the true literal that is returned. -/
def replaceFrom (state : Trail) (conflict : Conflict) : (place : Nat) → Option Nat × Conflict
  | 0 => (none, conflict)
  | place + 1 =>
      match state.trail[place]? with
      | none => (none, conflict)
      | some code =>
          let number := numberOf code
          if conflict.seen.getD number false then
            if conflict.pending ≤ 1 then (some code, conflict)
            else
              let next := { conflict with
                pending := conflict.pending - 1
                replaced := conflict.replaced.push number }
              replaceFrom state
                (lookAtClause state next (state.reasons.getD number noClause) code) place
          else replaceFrom state conflict place

/-- Whether all literals of the reason of a variable but its own are among those seen or of level zero. -/
def isImplied (state : Trail) (conflict : Conflict) (number : Nat) : Bool :=
  let reason := state.reasons.getD number noClause
  reason != noClause &&
    (state.clauses.getD reason #[]).all fun code =>
      let other := numberOf code
      other == number || conflict.seen.getD other false || state.levels.getD other 0 == 0

/-- Leave out a literal of a lower level that the others imply. -/
def shortened (state : Trail) (conflict : Conflict) : Conflict × Array Nat :=
  conflict.lower.foldl (fun (conflict, kept) code =>
    let number := numberOf code
    if isImplied state conflict number then
      let next := { conflict with implied := conflict.implied.push number }
      (lookAtClause state next (state.reasons.getD number noClause) (opposite code), kept)
    else (conflict, kept.push code)) (conflict, #[])

/-- The highest level of some literals. -/
def highestLevel (state : Trail) (codes : Array Nat) : Nat :=
  codes.foldl (fun highest code => Nat.max highest (state.levels.getD (numberOf code) 0)) 0

/-- The clauses that force the literals of variables, and last the clause with the conflict: in the order in
which they force their literals.  Those of level zero need nothing else, so they come first in any order. -/
def grounds (state : Trail) (conflict : Conflict) (clause : Nat) : List Nat :=
  let implied := conflict.implied.toList.mergeSort fun left right =>
    state.places.getD left 0 ≤ state.places.getD right 0
  (conflict.settled.toList ++ implied ++ conflict.replaced.toList.reverse).map
    (fun number => state.reasons.getD number noClause) ++ [clause]

/-- What a clause teaches all of whose literals are false, at least one of them at the present level. -/
def analyse (state : Trail) (clause : Nat) : Option Lesson :=
  let start : Conflict := { seen := Array.replicate state.levels.size false }
  match replaceFrom state (lookAtClause state start clause (2 * state.levels.size))
      state.trail.size with
  | (none, _) => none
  | (some code, conflict) =>
      let (conflict, others) := shortened state conflict
      some ⟨opposite code, others, conflict.replaced, conflict.grounds state clause⟩

end Conflict

end TensorLogic.Sat
