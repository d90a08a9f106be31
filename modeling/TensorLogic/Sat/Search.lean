/-
Module: TensorLogic.Sat.Search
Purpose: The search for an assignment that satisfies a formula.
Main exports: Sat.assign, Sat.propagate, Sat.search, Sat.leastModel?
-/
import TensorLogic.Cnf.Basic

namespace TensorLogic.Sat

/-!
The search assigns literals and simplifies the formula by each: clauses with the literal are dropped,
and its negation is dropped from the others.  First it assigns what unit clauses force.  Then it takes
the least variable that is left, tries one value and, if that fails, the other.  Forced literals have
their value in every model, so the first model that is found is the least one, if variables are compared
in their order and the value that is tried first comes first.

Each assignment makes the formula shorter, so the search ends.
-/

/-- The number of literals in a formula. -/
def weight : Formula → Nat
  | [] => 0
  | clause :: formula => clause.length + weight formula

/-- The formula, simplified by a literal that is assigned. -/
def assign (literal : Int) (formula : Formula) : Formula :=
  (formula.filter fun clause => !clause.contains literal).map fun clause =>
    clause.filter (· != -literal)

/-- Simplifying does not make a formula longer. -/
theorem weight_assign_le (literal : Int) (formula : Formula) :
    weight (assign literal formula) ≤ weight formula := by
  induction formula with
  | nil => simp [assign, weight]
  | cons clause formula hypothesis =>
      simp only [assign, weight, List.filter_cons] at *
      split
      · simp only [List.map_cons, weight]
        have shorter := List.length_filter_le (· != -literal) clause
        omega
      · omega

/-- Simplifying by a literal that occurs, or whose negation does, makes a formula shorter. -/
theorem weight_assign_lt {literal : Int} {formula : Formula} {clause : Clause}
    (member : clause ∈ formula) (occurs : literal ∈ clause ∨ -literal ∈ clause) :
    weight (assign literal formula) < weight formula := by
  induction formula with
  | nil => simp at member
  | cons first formula hypothesis =>
      have rest := weight_assign_le literal formula
      simp only [assign, weight, List.filter_cons] at *
      rcases List.mem_cons.1 member with isFirst | inRest
      · subst isFirst
        split
        · rename_i absent
          have negated : -literal ∈ clause := by
            rcases occurs with positive | negative
            · simp [positive] at absent
            · exact negative
          have shorter : (clause.filter (· != -literal)).length < clause.length := by
            refine List.length_filter_lt_length_iff_exists.2 ⟨-literal, negated, by simp⟩
          simp only [List.map_cons, weight]
          omega
        · rename_i present
          have nonempty : 0 < clause.length := by
            rcases occurs with positive | negative
            · exact List.length_pos_of_mem positive
            · exact List.length_pos_of_mem negative
          omega
      · have shorter := hypothesis inRest
        split
        · simp only [List.map_cons, weight]
          have notLonger := List.length_filter_le (· != -literal) first
          omega
        · omega

/-- The literal of a clause that has only one. -/
def unitOf? : Clause → Option Int
  | [literal] => some literal
  | _ => none

/-- The first literal that is a clause of its own. -/
def unit? (formula : Formula) : Option Int := formula.findSome? unitOf?

/-- A literal that is a clause of its own occurs in that clause. -/
theorem singleton_mem_of_unit? {formula : Formula} {literal : Int}
    (found : unit? formula = some literal) : [literal] ∈ formula := by
  obtain ⟨clause, member, isUnit⟩ := List.exists_of_findSome?_eq_some found
  cases clause with
  | nil => simp [unitOf?] at isUnit
  | cons first rest =>
      cases rest with
      | nil =>
          simp only [unitOf?, Option.some.injEq] at isUnit
          exact isUnit ▸ member
      | cons => simp [unitOf?] at isUnit

set_option linter.unusedVariables false in
/-- Assign what unit clauses force, until none is left: the forced literals and the simplified formula;
or `none` if a clause has become empty. -/
def propagate (formula : Formula) : Option (List Int × Formula) :=
  if formula.contains [] then none
  else
    match found : unit? formula with
    | none => some ([], formula)
    | some literal =>
        (propagate (assign literal formula)).map fun (forced, rest) => (literal :: forced, rest)
termination_by weight formula
decreasing_by
  exact weight_assign_lt (singleton_mem_of_unit? found) (.inl List.mem_cons_self)

/-- What is left after propagation is not longer than the formula was. -/
theorem weight_le_of_propagate {formula rest : Formula} {forced : List Int}
    (propagated : propagate formula = some (forced, rest)) : weight rest ≤ weight formula := by
  induction formula using propagate.induct generalizing forced rest with
  | case1 formula empty =>
      unfold propagate at propagated
      simp_all
  | case2 formula nonempty found =>
      unfold propagate at propagated
      rw [if_neg nonempty] at propagated
      split at propagated
      · simp only [Option.some.injEq, Prod.mk.injEq] at propagated
        exact Nat.le_of_eq (congrArg weight propagated.2.symm)
      · simp_all
  | case3 formula nonempty literal found hypothesis =>
      unfold propagate at propagated
      rw [if_neg nonempty] at propagated
      split at propagated
      · simp_all
      · rename_i other same
        have isLiteral : other = literal := by
          rw [found] at same
          exact (Option.some.inj same).symm
        subst isLiteral
        obtain ⟨⟨tail, final⟩, inner, outer⟩ := Option.map_eq_some_iff.1 propagated
        simp only [Prod.mk.injEq] at outer
        have shorter := hypothesis inner
        have simplified := weight_assign_le other formula
        rw [← outer.2]
        omega

/-- The least variable of a formula. -/
def leastVariable? (formula : Formula) : Option Nat :=
  (formula.flatten.map Int.natAbs).min?

/-- The least variable occurs, as itself or negated. -/
theorem exists_of_leastVariable? {formula : Formula} {least : Nat}
    (found : leastVariable? formula = some least) :
    ∃ clause ∈ formula, (least : Int) ∈ clause ∨ -(least : Int) ∈ clause := by
  have member : least ∈ formula.flatten.map Int.natAbs := List.min?_mem found
  obtain ⟨literal, inside, isLeast⟩ := List.mem_map.1 member
  obtain ⟨clause, isClause, inClause⟩ := List.mem_flatten.1 inside
  refine ⟨clause, isClause, ?_⟩
  rcases Int.natAbs_eq literal with positive | negative
  · left
    rw [← isLeast, ← positive]
    exact inClause
  · right
    rw [← isLeast, ← negative]
    exact inClause

set_option linter.unusedVariables false in
/-- Literals that satisfy a formula, in the order in which they are assigned.  The value `preferred` is
tried first.  Variables that are not assigned may have any value. -/
def search (preferred : Bool) (formula : Formula) : Option (List Int) :=
  match propagated : propagate formula with
  | none => none
  | some (forced, rest) =>
      match found : leastVariable? rest with
      | none => some forced
      | some least =>
          let literal : Int := if preferred then least else -least
          match search preferred (assign literal rest) with
          | some literals => some (forced ++ literal :: literals)
          | none =>
              (search preferred (assign (-literal) rest)).map fun literals =>
                forced ++ -literal :: literals
termination_by weight formula
decreasing_by
  all_goals
    obtain ⟨clause, member, occurs⟩ := exists_of_leastVariable? found
    refine Nat.lt_of_lt_of_le (weight_assign_lt member ?_) (weight_le_of_propagate propagated)
    cases preferred <;> simp [or_comm, occurs]

/-- The assignment that literals describe.  A variable up to the given number that is not mentioned has
the preferred value; those above it are false. -/
def assignmentOf (preferred : Bool) (numVars : Nat) (literals : List Int) : Assignment :=
  fun number =>
    if literals.contains (number : Int) then true
    else if literals.contains (-(number : Int)) then false
    else preferred && number ≤ numVars

/-- The least model of a formula, comparing the first variable first; the value `preferred` comes before
the other one. -/
def leastModel? (preferred : Bool) (numVars : Nat) (formula : Formula) : Option Assignment :=
  (search preferred formula).map (assignmentOf preferred numVars)

/-- The value that is tried first is kept wherever a model allows it. -/
example :
    (leastModel? false 2 [[1, 2]]).map (fun model => (model 1, model 2)) = some (false, true) ∧
      (leastModel? true 2 [[1, 2]]).map (fun model => (model 1, model 2)) = some (true, true) ∧
      (leastModel? false 1 [[1], [-1]]).isNone := by decide +kernel

end TensorLogic.Sat
