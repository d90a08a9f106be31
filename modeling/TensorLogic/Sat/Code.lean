/-
Module: TensorLogic.Sat.Code
Purpose: Literals as natural numbers, by which tables are indexed.
Main exports: Sat.code, Sat.opposite, Sat.numberOf, Sat.satisfies, Sat.codeOf, Sat.codes,
  satisfies_code, satisfies_opposite, satisfies_codeOf, any_satisfies_codes
-/
import TensorLogic.Cnf.Basic

namespace TensorLogic.Sat

/-!
The code of a literal is twice its variable, and one more if the literal is negative.  So the codes of a
literal and of its negation stand next to each other, and a table with an entry for each literal is an array.
-/

/-- The code of a literal. -/
def code (literal : Int) : Nat :=
  if 0 < literal then 2 * literal.natAbs else 2 * literal.natAbs + 1

/-- The code of the negation. -/
def opposite (code : Nat) : Nat := if code % 2 = 0 then code + 1 else code - 1

/-- The variable of the literal with a code. -/
def numberOf (code : Nat) : Nat := code / 2

/-- Whether an assignment makes the literal with a code true. -/
def satisfies (assignment : Assignment) (code : Nat) : Bool :=
  if code % 2 = 0 then assignment (numberOf code) else !assignment (numberOf code)

/-- The code of a literal stands for it. -/
@[simp]
theorem satisfies_code (assignment : Assignment) (literal : Int) :
    satisfies assignment (code literal) = assignment.holds literal := by
  unfold satisfies code Assignment.holds numberOf
  split
  · rw [if_pos (Nat.mul_mod_right 2 _), Nat.mul_div_cancel_left _ (by decide)]
  · have odd : (2 * literal.natAbs + 1) % 2 = 1 := by omega
    have half : (2 * literal.natAbs + 1) / 2 = literal.natAbs := by omega
    rw [odd, half]
    rfl

/-- Different literals have different codes. -/
theorem eq_of_code_eq {left right : Int} (same : code left = code right) : left = right := by
  unfold code at same
  split at same <;> split at same <;> omega

/-- The opposite code stands for the negation. -/
@[simp]
theorem satisfies_opposite (assignment : Assignment) (code : Nat) :
    satisfies assignment (opposite code) = !satisfies assignment code := by
  unfold satisfies opposite numberOf
  by_cases even : code % 2 = 0
  · have next : (code + 1) % 2 = 1 := by omega
    have half : (code + 1) / 2 = code / 2 := by omega
    simp [even, next, half]
  · have previous : (code - 1) % 2 = 0 := by omega
    have half : (code - 1) / 2 = code / 2 := by omega
    simp [even, previous, half]

/-- The code of the literal of a variable that has the given value. -/
def codeOf (value : Bool) (number : Nat) : Nat := if value then 2 * number else 2 * number + 1

/-- The literal of a variable with a value says that it has it. -/
theorem satisfies_codeOf (assignment : Assignment) (value : Bool) (number : Nat) :
    satisfies assignment (codeOf value number) = (assignment number == value) := by
  have half : (2 * number + 1) / 2 = number := by omega
  cases value <;> simp [satisfies, codeOf, numberOf, half]

/-- The variable of the literal of a variable. -/
@[simp]
theorem numberOf_codeOf (value : Bool) (number : Nat) : numberOf (codeOf value number) = number := by
  cases value <;> simp only [numberOf, codeOf, if_true, Bool.false_eq_true, if_false] <;> omega

/-- The negation says that a variable has the other value. -/
@[simp]
theorem opposite_codeOf (value : Bool) (number : Nat) :
    opposite (codeOf value number) = codeOf (!value) number := by
  cases value <;>
    simp only [opposite, codeOf, if_true, Bool.false_eq_true, if_false, Bool.not_true,
      Bool.not_false] <;> split <;> omega

/-- The literals of a variable differ. -/
theorem codeOf_ne (value : Bool) (number other : Nat) :
    codeOf value number ≠ codeOf (!value) other := by
  cases value <;>
    simp only [codeOf, if_true, Bool.false_eq_true, if_false, Bool.not_true, Bool.not_false] <;> omega

/-- Every code is that of a literal of its variable. -/
theorem exists_eq_codeOf (code : Nat) : ∃ value, code = codeOf value (numberOf code) := by
  rcases Nat.mod_two_eq_zero_or_one code with even | odd
  · exact ⟨true, by simp only [codeOf, numberOf, if_true]; omega⟩
  · exact ⟨false, by simp only [codeOf, numberOf, Bool.false_eq_true, if_false]; omega⟩

/-- The codes of the literals of a clause. -/
def codes (clause : Clause) : List Nat := clause.map code

/-- A clause holds when a literal with one of its codes does. -/
theorem any_satisfies_codes (assignment : Assignment) (clause : Clause) :
    (codes clause).any (satisfies assignment) = clause.eval assignment := by
  rw [Bool.eq_iff_iff]
  simp [codes, Clause.eval]

/-- A literal and its negation. -/
example : code 3 = 6 ∧ code (-3) = 7 ∧ opposite 6 = 7 ∧ opposite 7 = 6 ∧ numberOf 7 = 3 := by
  decide

end TensorLogic.Sat
