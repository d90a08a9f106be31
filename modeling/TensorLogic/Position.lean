/-
Module: TensorLogic.Position
Purpose: Positions in a sequence, counted from either end.
Main exports: Position.limit, Position.place, Position.member, Position.place_natCast
-/
import TensorLogic.Fault

namespace TensorLogic.Position

/-!
A position counts the members of a sequence from zero on, and a negative one counts them from the end.
A position that does not fit into a machine word is refused before the sequence is looked at.
-/

/-- Positions lie below this number, and not below its negative. -/
def limit : Int := 0x8000000000000000

/-- The place that a position stands for in a sequence of some length; a position outside is the given
fault. -/
def place (length : Nat) (position : Int) (outside : Fault) : Except Fault (Fin length) :=
  if position < -limit || limit ≤ position then .error .hugePosition
  else
    let counted := if position < 0 then position + length else position
    if inside : 0 ≤ counted ∧ counted.toNat < length then .ok ⟨counted.toNat, inside.2⟩
    else .error outside

/-- A number below the length that fits into a machine word stands for the place with that number. -/
theorem place_natCast {length number : Nat} (inside : number < length)
    (addressed : (number : Int) < limit) (outside : Fault) :
    place length number outside = .ok ⟨number, inside⟩ := by
  have fits : ¬(decide ((number : Int) < -limit) ||
      decide (limit ≤ (number : Int))) = true := by
    have isLimit : (0 : Int) < limit := by decide
    rw [Bool.or_eq_true, decide_eq_true_iff, decide_eq_true_iff]
    omega
  have counted : (if (number : Int) < 0 then (number : Int) + length else number) = number :=
    if_neg (by omega)
  unfold place
  rw [if_neg fits]
  simp only [counted]
  rw [dif_pos ⟨by omega, by rwa [Int.toNat_natCast]⟩]
  rfl

/-- The member of a list at a position. -/
def member {α : Type} (items : List α) (position : Int) (outside : Fault) : Except Fault α := do
  pure (items.get (← place items.length position outside))

/-- The last member is also at position minus one. -/
example :
    (member [5, 6, 7] 2 .listRange).toOption = some 7 ∧
      (member [5, 6, 7] (-1) .listRange).toOption = some 7 ∧
      (member [5, 6, 7] (-4) .listRange).toOption = none := by decide

end TensorLogic.Position
