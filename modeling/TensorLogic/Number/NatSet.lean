/-
Module: TensorLogic.Number.NatSet
Purpose: Finite sets of natural numbers that are quick to ask.
Main exports: NatSet, NatSet.contains, NatSet.insert, NatSet.contains_insert
-/

namespace TensorLogic

/-!
A set is a tree along which the binary digits of a number lead, the least one first.  A number that has no
digits left is zero, and each node says whether the number that leads to it is in the set.
-/

/-- A set of natural numbers: nothing, or whether zero is in it, the halves of its other even numbers, and the
halves of its odd numbers, rounded down. -/
inductive NatSet where
  | empty
  | node (hasZero : Bool) (even odd : NatSet)
deriving Repr

namespace NatSet

/-- Whether a number is in a set. -/
def contains : NatSet → Nat → Bool
  | empty, _ => false
  | node hasZero even odd, number =>
      if number = 0 then hasZero
      else if number % 2 = 0 then even.contains (number / 2)
      else odd.contains (number / 2)

/-- Whether zero is in a set. -/
def hasZero : NatSet → Bool
  | empty => false
  | node hasZero _ _ => hasZero

/-- The halves of the even numbers of a set other than zero. -/
def even : NatSet → NatSet
  | empty => empty
  | node _ even _ => even

/-- The halves of the odd numbers of a set, rounded down. -/
def odd : NatSet → NatSet
  | empty => empty
  | node _ _ odd => odd

/-- What is in a set, by its parts. -/
theorem contains_eq (set : NatSet) (number : Nat) :
    set.contains number =
      if number = 0 then set.hasZero
      else if number % 2 = 0 then set.even.contains (number / 2)
      else set.odd.contains (number / 2) := by
  cases set with
  | empty => simp [contains, hasZero, even, odd]
  | node => rfl

/-- Put a number into a set.  It has no more digits than the given number of steps. -/
def insertFor : (steps : Nat) → NatSet → Nat → NatSet
  | 0, set, _ => node true set.even set.odd
  | steps + 1, set, number =>
      if number = 0 then node true set.even set.odd
      else if number % 2 = 0 then
        node set.hasZero (insertFor steps set.even (number / 2)) set.odd
      else node set.hasZero set.even (insertFor steps set.odd (number / 2))

/-- Put a number into a set. -/
def insert (set : NatSet) (number : Nat) : NatSet := insertFor number set number

/-- After a number is put into a set, it contains that number and what it contained before. -/
theorem contains_insertFor {steps number : Nat} (enough : number ≤ steps) (set : NatSet)
    (other : Nat) :
    (insertFor steps set number).contains other = (other == number || set.contains other) := by
  induction steps generalizing number set other with
  | zero =>
      have isZero : number = 0 := by omega
      subst isZero
      rw [insertFor, contains_eq, contains_eq set]
      by_cases same : other = 0
      · simp [same, hasZero]
      · simp [same, even, odd]
  | succ steps hypothesis =>
      have shorter : number / 2 ≤ steps := by omega
      rw [insertFor, contains_eq set]
      split
      · rename_i isZero
        subst isZero
        rw [contains_eq]
        by_cases same : other = 0
        · simp [same, hasZero]
        · simp [same, even, odd]
      · split
        · rw [contains_eq]
          by_cases same : other = 0
          · simp [same, hasZero, show ¬(0 = number) by omega]
          · by_cases isEven : other % 2 = 0
            · have halves : (other / 2 == number / 2) = (other == number) := by
                rw [Bool.eq_iff_iff, beq_iff_eq, beq_iff_eq]
                omega
              simp [same, isEven, even, hypothesis shorter, halves]
            · have differs : (other == number) = false := by
                rw [beq_eq_false_iff_ne]
                omega
              simp [same, isEven, odd, differs]
        · rw [contains_eq]
          by_cases same : other = 0
          · simp [same, hasZero, show ¬(0 = number) by omega]
          · by_cases isEven : other % 2 = 0
            · have differs : (other == number) = false := by
                rw [beq_eq_false_iff_ne]
                omega
              simp [same, isEven, even, differs]
            · have halves : (other / 2 == number / 2) = (other == number) := by
                rw [Bool.eq_iff_iff, beq_iff_eq, beq_iff_eq]
                omega
              simp [same, isEven, odd, hypothesis shorter, halves]

/-- After a number is put into a set, it contains that number and what it contained before. -/
theorem contains_insert (set : NatSet) (number other : Nat) :
    (set.insert number).contains other = (other == number || set.contains other) :=
  contains_insertFor (Nat.le_refl number) set other

/-- Nothing is in the empty set. -/
@[simp]
theorem contains_empty (number : Nat) : empty.contains number = false := rfl

/-- Numbers that are put into a set are in it. -/
example :
    let set := [6, 0, 3].foldl insert empty
    [0, 1, 2, 3, 4, 5, 6].map set.contains = [true, false, false, true, false, false, true] := by
  decide

end NatSet

end TensorLogic
