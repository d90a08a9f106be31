/-
Module: TensorLogic.Number.Whole
Purpose: Whole numbers and counts as they are given, in digits or as truth values.
Main exports: Whole, Whole.value, Whole.text, Count, Count.value, Count.toWhole, Whole.count?,
  Whole.exists_count
-/
import TensorLogic.Text.Numeral

namespace TensorLogic

/-!
Where a whole number is asked for, a truth value will do: it counts as one or as zero.  It is kept as it
was given, so that a report names it so, while everything that is computed or compared uses its value.
-/

/-- A whole number as it is given. -/
inductive Whole where
  | number (value : Int)
  | truth (value : Bool)
deriving Repr, DecidableEq, Inhabited

namespace Whole

instance (value : Nat) : OfNat Whole value := ⟨number value⟩

instance : Coe Int Whole := ⟨number⟩

/-- The number that is meant. -/
def value : Whole → Int
  | number value => value
  | truth value => value.toInt

/-- How a whole number is written. -/
def text : Whole → String
  | number value => Text.writeNumeral value
  | truth true => "True"
  | truth false => "False"

@[simp]
theorem value_number (value : Int) : (number value).value = value := rfl

end Whole

/-- A number of things as it is given: a whole number that is not negative. -/
inductive Count where
  | number (value : Nat)
  | truth (value : Bool)
deriving Repr, DecidableEq, Inhabited

namespace Count

instance (value : Nat) : OfNat Count value := ⟨number value⟩

instance : Coe Nat Count := ⟨number⟩

/-- The number that is meant. -/
def value : Count → Nat
  | number value => value
  | truth value => value.toNat

/-- A count as a whole number, given in the same way. -/
def toWhole : Count → Whole
  | number value => .number value
  | truth value => .truth value

/-- How a count is written. -/
def text (count : Count) : String := count.toWhole.text

@[simp]
theorem value_number (value : Nat) : (number value).value = value := rfl

@[simp]
theorem value_ofNat (value : Nat) : (OfNat.ofNat value : Count).value = value := rfl

/-- Reading a count as a whole number keeps its value. -/
@[simp]
theorem value_toWhole (count : Count) : count.toWhole.value = count.value := by
  cases count with
  | number => rfl
  | truth value => cases value <;> rfl

end Count

/-- A whole number as a count, unless it is negative. -/
def Whole.count? : Whole → Option Count
  | .number (.ofNat value) => some (.number value)
  | .number (.negSucc _) => none
  | .truth value => some (.truth value)

/-- A whole number is a count exactly when it is not negative, and the count is given in the same
way. -/
theorem Whole.count?_eq_some_iff {whole : Whole} {count : Count} :
    whole.count? = some count ↔ whole = count.toWhole := by
  cases whole with
  | number value =>
      cases value with
      | ofNat value =>
          cases count with
          | number other =>
              simp only [Whole.count?, Count.toWhole, Option.some.injEq, Count.number.injEq,
                Whole.number.injEq]
              exact Int.ofNat_inj.symm
          | truth => simp [Whole.count?, Count.toWhole]
      | negSucc value => cases count <;> simp [Whole.count?, Count.toWhole]
  | truth value => cases count <;> simp [Whole.count?, Count.toWhole]

/-- A whole number that is not negative is a count. -/
theorem Whole.exists_count {whole : Whole} (nonnegative : 0 ≤ whole.value) :
    ∃ count : Count, whole = count.toWhole := by
  cases whole with
  | number value =>
      rcases Int.eq_ofNat_of_zero_le nonnegative with ⟨number, rfl⟩
      exact ⟨.number number, rfl⟩
  | truth value => exact ⟨.truth value, rfl⟩

end TensorLogic
