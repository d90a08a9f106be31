/-
Module: TensorLogic.Proofs.Algebra.Truth
Purpose: The operations on plain truth values are their meanings.
Main exports: Truth.connective_eq, Truth.aggregate_eq, Truth.compare_eq, Value.ofBool_eq
-/
import TensorLogic.Proofs.Algebra.Valuation
import TensorLogic.Value

namespace TensorLogic

namespace Truth

variable {σ V : Type} [TruthValued V]

/-- The element for a truth value has that truth. -/
theorem truth_ofBool (value : Bool) : TruthValued.truth (ofBool value : V) = value := by
  cases value with
  | false => exact TruthValued.truth_bot
  | true => exact TruthValued.truth_top

theorem values_ofBool (members : List Bool) : values (members.map (ofBool : Bool → V)) = members := by
  rw [values, List.map_map]
  exact (List.map_congr_left fun member _ => truth_ofBool member).trans (List.map_id members)

theorem neg_eq (element : V) :
    (algebra : BoolAlgebra σ V).neg element = pure (ofBool !TruthValued.truth element) := rfl

/-- A connective is computed from the truth of its operands, and nothing else about them. -/
theorem connective_eq (connective : Connective) (left right : V) :
    (algebra : BoolAlgebra σ V).connective connective left right =
      pure (ofBool (connective.eval (TruthValued.truth left) (TruthValued.truth right))) := by
  cases connective <;> rfl

/-! ### What the loops come to -/

theorem values_cons (element : V) (elements : List V) :
    values (element :: elements) = TruthValued.truth element :: values elements := rfl

theorem length_values (elements : List V) : (values elements).length = elements.length :=
  List.length_map TruthValued.truth

/-- The search for an element that is false finds out whether all are true. -/
theorem allTrue_eq (elements : List V) : allTrue elements = (values elements).all id := by
  induction elements with
  | nil => rfl
  | cons element elements hypothesis =>
      rw [allTrue, hypothesis, values_cons, List.all_cons]
      cases TruthValued.truth element <;> rfl

/-- The search for an element that is true finds out whether there is one. -/
theorem anyTrue_eq (elements : List V) : anyTrue elements = (values elements).any id := by
  induction elements with
  | nil => rfl
  | cons element elements hypothesis =>
      rw [anyTrue, hypothesis, values_cons, List.any_cons]
      cases TruthValued.truth element <;> rfl

/-- A truth value that is toggled at each true element ends up as the parity says. -/
theorem toggled_eq (result : Bool) (elements : List V) :
    toggled result elements = (result != ((values elements).count true % 2 == 1)) := by
  induction elements generalizing result with
  | nil => cases result <;> rfl
  | cons element elements hypothesis =>
      rw [toggled, hypothesis, values_cons, List.count_cons]
      generalize (values elements).count true = number
      cases result <;> cases TruthValued.truth element <;> simp [Valuation.isOdd_succ]

/-- Counting from a number below two goes on to the number of all, or to two. -/
theorem countToTwo_eq {number : Nat} (few : number < 2) (elements : List V) :
    countToTwo number elements = min 2 (number + (values elements).count true) := by
  induction elements generalizing number with
  | nil =>
      change number = min 2 (number + 0)
      omega
  | cons element elements hypothesis =>
      rw [countToTwo, values_cons, List.count_cons]
      cases TruthValued.truth element with
      | false => exact hypothesis few
      | true =>
          rw [if_pos rfl, if_pos (beq_self_eq_true true)]
          by_cases two : 2 ≤ number + 1
          · rw [if_pos two]
            omega
          · rw [if_neg two, hypothesis (Nat.lt_of_not_le two), Nat.add_right_comm, Nat.add_assoc]

/-- The search for the first difference of two sequences of one length decides the lexicographic order. -/
theorem isBefore_eq {lefts rights : List Bool} (lengths : lefts.length = rights.length) :
    isBefore lefts rights = lexLess lefts rights := by
  induction lefts generalizing rights with
  | nil =>
      rw [List.eq_nil_of_length_eq_zero lengths.symm]
      rfl
  | cons left lefts hypothesis =>
      cases rights with
      | nil => cases lengths
      | cons right rights =>
          rw [isBefore, lexLess, hypothesis (Nat.succ.inj lengths)]
          cases left <;> cases right <;> simp

/-- An aggregate is computed from the truth of the elements, and refused only for the equality of none. -/
theorem aggregate_eq (aggregate : Aggregate) (elements : List V) :
    (algebra : BoolAlgebra σ V).aggregate aggregate elements =
      match aggregate.eval (values elements) with
      | some value => pure (ofBool value)
      | none => throw .emptyEquality := by
  cases aggregate with
  | all => exact congrArg (fun value => pure (ofBool value)) (allTrue_eq elements)
  | any => exact congrArg (fun value => pure (ofBool value)) (anyTrue_eq elements)
  | parity =>
      have odd := toggled_eq false elements
      rw [Bool.false_bne] at odd
      exact congrArg (fun value => pure (ofBool value)) odd
  | one =>
      have exactly : (countToTwo 0 elements == 1) = ((values elements).count true == 1) := by
        rw [countToTwo_eq (by decide), Bool.eq_iff_iff, beq_iff_eq, beq_iff_eq]
        omega
      exact congrArg (fun value => pure (ofBool value)) exactly
  | many =>
      have atLeast : decide (2 ≤ countToTwo 0 elements) = decide (2 ≤ (values elements).count true) := by
        rw [countToTwo_eq (by decide), decide_eq_decide]
        omega
      exact congrArg (fun value => pure (ofBool value)) atLeast
  | allEqual =>
      cases elements with
      | nil => rfl
      | cons first elements =>
          have same : (elements.all fun element =>
              TruthValued.truth element == TruthValued.truth first) =
                (values elements).all (· == TruthValued.truth first) := by
            rw [values, List.all_map]
            rfl
          exact congrArg (fun value => pure (ofBool value)) same

/-- The strict order is computed from the truth of the elements, and refused for different lengths. -/
theorem lexLt_eq (lefts rights : List V) :
    (algebra : BoolAlgebra σ V).lexLt lefts rights =
      if lefts.length = rights.length then pure (ofBool (lexLess (values lefts) (values rights)))
      else throw (.lengthsDiffer lefts.length rights.length) := by
  change (if _ then _ else _) = _
  by_cases lengths : lefts.length = rights.length
  · rw [if_pos lengths, if_pos lengths, isBefore_eq (by rw [length_values, length_values, lengths])]
  · rw [if_neg lengths, if_neg lengths]

/-- Either order is computed from the truth of the elements, and refused for different lengths. -/
theorem compare_eq (comparison : Comparison) (lefts rights : List V) :
    (algebra : BoolAlgebra σ V).compare comparison lefts rights =
      match comparison.eval (values lefts) (values rights) with
      | some value => pure (ofBool value)
      | none => throw (comparison.lengthFault lefts.length rights.length) := by
  cases comparison with
  | lexLt =>
      rw [Comparison.eval, length_values, length_values]
      refine (lexLt_eq lefts rights).trans ?_
      by_cases lengths : lefts.length = rights.length
      · rw [if_pos lengths, if_pos lengths]
      · rw [if_neg lengths, if_neg lengths]
        rfl
  | lexLe =>
      rw [Comparison.eval, length_values, length_values]
      change (do (algebra : BoolAlgebra σ V).neg (← (algebra : BoolAlgebra σ V).lexLt rights lefts)) = _
      rw [lexLt_eq]
      by_cases lengths : rights.length = lefts.length
      · rw [if_pos lengths, if_pos lengths, pure_bind, neg_eq, truth_ofBool]
      · rw [if_neg lengths, if_neg lengths]
        rfl

end Truth

namespace Value

variable {β : Type}

theorem ofBool_eq (value : Bool) : (Truth.ofBool value : Value β) = .bool value := by
  cases value <;> rfl

theorem values_bool (values : List Bool) :
    Truth.values (values.map fun value => (Value.bool value : Value β)) = values := by
  rw [Truth.values, List.map_map]
  exact List.map_id values

end Value

/-- Whether an operation on a sequence has a value depends on the length of the sequence only. -/
theorem Aggregate.isSome_eval (aggregate : Aggregate) {values others : List Bool}
    (sameLength : values.length = others.length) :
    (aggregate.eval values).isSome = (aggregate.eval others).isSome := by
  cases aggregate with
  | allEqual =>
      cases values with
      | nil =>
          cases others with
          | nil => rfl
          | cons => cases sameLength
      | cons =>
          cases others with
          | nil => cases sameLength
          | cons => rfl
  | _ => rfl

/-- Whether two sequences can be compared depends on their lengths only. -/
theorem Comparison.isSome_eval (comparison : Comparison)
    {lefts rights others otherRights : List Bool}
    (sameLength : lefts.length = others.length)
    (sameRight : rights.length = otherRights.length) :
    (comparison.eval lefts rights).isSome = (comparison.eval others otherRights).isSome := by
  cases comparison with
  | lexLt =>
      rw [eval, eval, sameLength, sameRight]
      split <;> rfl
  | lexLe =>
      rw [eval, eval, sameLength, sameRight]
      split <;> rfl

end TensorLogic
