/-
Module: TensorLogic.Solver.LitSet
Purpose: Sets of literals, and the different literals among many.
Main exports: LitSet, LitSet.contains, LitSet.insert, Solver.collectLits, Solver.distinctLits?,
  Solver.distinctLits?_eq
-/
import TensorLogic.Number.NatSet
import TensorLogic.Sat.Code
import TensorLogic.Solver.Basic

namespace TensorLogic

/-!
A gate with many operands looks at each of them once: it asks whether the literal or its negation came
before.  A set of the literals so far answers that without a look at all of them.
-/

/-- A set of literals: for each scope the codes of its literals. -/
structure LitSet where
  parts : List (Scope × NatSet) := []

namespace LitSet

/-- The codes of a scope. -/
def codesIn (scope : Scope) : List (Scope × NatSet) → NatSet
  | [] => .empty
  | (other, codes) :: parts => if other = scope then codes else codesIn scope parts

/-- Put a code into the set of a scope. -/
def insertIn (scope : Scope) (code : Nat) : List (Scope × NatSet) → List (Scope × NatSet)
  | [] => [(scope, NatSet.empty.insert code)]
  | (other, codes) :: parts =>
      if other = scope then (other, codes.insert code) :: parts
      else (other, codes) :: insertIn scope code parts

/-- Whether a literal is in a set. -/
def contains (set : LitSet) (literal : Lit) : Bool :=
  (codesIn literal.scope set.parts).contains (Sat.code literal.code)

/-- Put a literal into a set. -/
def insert (set : LitSet) (literal : Lit) : LitSet :=
  ⟨insertIn literal.scope (Sat.code literal.code) set.parts⟩

/-- Putting a code into the set of a scope changes that set only. -/
theorem codesIn_insertIn (scope other : Scope) (code : Nat) (parts : List (Scope × NatSet)) :
    codesIn other (insertIn scope code parts) =
      if scope = other then (codesIn scope parts).insert code else codesIn other parts := by
  induction parts with
  | nil => rfl
  | cons part parts hypothesis =>
      obtain ⟨first, codes⟩ := part
      simp only [insertIn]
      split
      · rename_i isScope
        subst isScope
        simp only [codesIn, if_true]
        split <;> rfl
      · rename_i differs
        simp only [codesIn, if_neg differs, hypothesis]
        split
        · rename_i isOther
          subst isOther
          rw [if_neg (Ne.symm differs)]
        · rfl

/-- After a literal is put into a set, it contains that literal and what it contained before. -/
theorem contains_insert (set : LitSet) (literal other : Lit) :
    (set.insert literal).contains other = (other == literal || set.contains other) := by
  unfold contains insert
  rw [codesIn_insertIn]
  by_cases sameScope : literal.scope = other.scope
  · rw [if_pos sameScope, NatSet.contains_insert, sameScope]
    congr 1
    rw [Bool.eq_iff_iff, beq_iff_eq, beq_iff_eq]
    constructor
    · intro sameCode
      cases literal
      cases other
      simp only at sameScope sameCode
      rw [sameScope, Sat.eq_of_code_eq sameCode]
    · rintro rfl
      rfl
  · have differs : (other == literal) = false := by
      rw [beq_eq_false_iff_ne]
      rintro rfl
      exact sameScope rfl
    rw [if_neg sameScope, differs, Bool.false_or]

/-- Nothing is in the empty set. -/
@[simp]
theorem contains_empty (literal : Lit) : contains {} literal = false := rfl

end LitSet

namespace Solver

/-- The different literals of a list other than `neutral`, in order of their first occurrence; or `none`
if `absorbing` is among them, or a literal and its negation. -/
def collectLits (neutral absorbing : Lit) (found : List Lit) : List Lit → Option (List Lit)
  | [] => some found
  | literal :: literals =>
      if literal = absorbing ∨ literal.neg ∈ found then none
      else if literal = neutral ∨ literal ∈ found then
        collectLits neutral absorbing found literals
      else collectLits neutral absorbing (found ++ [literal]) literals

/-- The same for literals found so far that are also kept as a set. -/
def gatherLits (neutral absorbing : Lit) (seen : LitSet) (found : Array Lit) :
    List Lit → Option (Array Lit)
  | [] => some found
  | literal :: literals =>
      if literal = absorbing ∨ seen.contains literal.neg = true then none
      else if literal = neutral ∨ seen.contains literal = true then
        gatherLits neutral absorbing seen found literals
      else gatherLits neutral absorbing (seen.insert literal) (found.push literal) literals

/-- The different literals of a list other than `neutral`, in order of their first occurrence; or `none`
if `absorbing` is among them, or a literal and its negation. -/
def distinctLits? (neutral absorbing : Lit) (literals : List Lit) : Option (List Lit) :=
  (gatherLits neutral absorbing {} #[] literals).map Array.toList

/-- As long as the set holds what was found, it makes no difference to ask it. -/
theorem gatherLits_eq (neutral absorbing : Lit) {seen : LitSet} {found : Array Lit}
    (agrees : ∀ literal, seen.contains literal = true ↔ literal ∈ found.toList)
    (literals : List Lit) :
    (gatherLits neutral absorbing seen found literals).map Array.toList =
      collectLits neutral absorbing found.toList literals := by
  induction literals generalizing seen found with
  | nil => rfl
  | cons literal literals hypothesis =>
      simp only [gatherLits, collectLits, agrees]
      split
      · rfl
      · split
        · exact hypothesis agrees
        · rw [hypothesis, Array.toList_push]
          intro other
          rw [LitSet.contains_insert, Bool.or_eq_true, beq_iff_eq, agrees, Array.toList_push,
            List.mem_append, List.mem_singleton]
          exact or_comm

/-- The different literals are what is collected one after the other. -/
theorem distinctLits?_eq (neutral absorbing : Lit) (literals : List Lit) :
    distinctLits? neutral absorbing literals = collectLits neutral absorbing [] literals :=
  gatherLits_eq neutral absorbing (by simp) literals

end Solver

end TensorLogic
