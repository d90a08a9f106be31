/-
Module: TensorLogic.Proofs.Contraction.PlainLabels
Purpose: Labels of any kinds are told apart by what they stand for.
Main exports: Exact.value, Exact.equal_iff, Label.Key, Label.Plain, Label.found_iff_key,
  Contraction.tells_plain
-/
import Mathlib.Algebra.Order.Field.Rat
import Mathlib.Algebra.Order.Ring.Rat
import Mathlib.Data.Rat.Cast.CharZero
import Mathlib.Tactic.Ring
import TensorLogic.Proofs.Contraction.Labels
import TensorLogic.Proofs.Workspace.Hashing

namespace TensorLogic

/-!
A label is a text, a number of any kind, a truth value, nothing at all, or a tuple of labels.  Numbers and
truth values are compared by their values, and tuples member by member, so that labels of different kinds may
be one label: `1`, `True` and `1.0` are.  A label is also found again as the object that it is, by its mark.
So what is no number at all, and equals nothing, is a label of its own for each object.

Whether two labels are one is decided by what they stand for, and so it is an equivalence.  All that marks have
to grant is that one site has not brought forth different things.
-/

namespace Exact

/-- The value of a number. -/
def value (number : Exact) : ℚ := number.mantissa * 2 ^ number.exponent

/-- A power of two can be moved from the exponent of a number to its mantissa. -/
theorem value_shift (mantissa exponent : Int) (places : Nat) :
    value ⟨mantissa * 2 ^ places, exponent⟩ = value ⟨mantissa, exponent + places⟩ := by
  simp only [value]
  rw [zpow_add₀ two_ne_zero, zpow_natCast]
  push_cast
  ring

/-- At one power of two, numbers have one value when they have one mantissa. -/
theorem value_inj {first second exponent : Int} :
    value ⟨first, exponent⟩ = value ⟨second, exponent⟩ ↔ first = second := by
  have nonzero : (2 : ℚ) ^ exponent ≠ 0 := zpow_ne_zero _ two_ne_zero
  simp only [value, mul_left_inj' nonzero, Int.cast_inj]

/-- Numbers are equal when their values are, however these are written. -/
theorem equal_iff {left right : Exact} : left.equal right = true ↔ left.value = right.value := by
  rcases left with ⟨first, low⟩
  rcases right with ⟨second, high⟩
  simp only [equal, align, beq_iff_eq, Nat.pow_eq]
  rcases Int.le_total low high with isLow | isHigh
  · have none : (low - high).toNat = 0 := by omega
    have isExponent : low + (high - low).toNat = high := by omega
    have spread : value ⟨second * 2 ^ (high - low).toNat, low⟩ = value ⟨second, high⟩ := by
      rw [value_shift, isExponent]
    rw [← spread, value_inj]
    simp [none]
  · have none : (high - low).toNat = 0 := by omega
    have isExponent : high + (low - high).toNat = low := by omega
    have spread : value ⟨first * 2 ^ (low - high).toNat, high⟩ = value ⟨first, low⟩ := by
      rw [value_shift, isExponent]
    rw [← spread, value_inj]
    simp [none]

end Exact

namespace Label

/-- What a label stands for. -/
inductive Key where
  | number (value : ℚ)
  | infinite (negative : Bool)
  | text (content : String)
  | nothing
  | undefined (site : Site)
  | tuple (members : List Key)

/-- What a number stands for as a label. -/
def quantityKey : Quantity → Key
  | .finite number => .number number.value
  | .infinite negative => .infinite negative

/-- What a scalar with a mark stands for as a label.  The mark is all there is to what is no number. -/
def scalarKey (mark : Mark) (value : Scalar) : Key :=
  match value.number?, value with
  | some number, _ => quantityKey number
  | none, .str content => .text content
  | none, .fraction _ => .undefined (mark.getD [])
  | none, _ => .nothing

mutual

/-- What a datum stands for as a label. -/
def keyOf : Datum → Key
  | .scalar mark value => scalarKey mark value
  | .list _ items => .tuple (keysOf items)

/-- What the members of a tuple stand for. -/
def keysOf : List Datum → List Key
  | [] => []
  | item :: items => keyOf item :: keysOf items

end

/-- The key of a label. -/
def key (label : Label) : Key := keyOf label.datum

/-- Data that can be found again as labels, given what has come into being at each site.  What is no number has
to have a mark. -/
inductive Plain (made : Site → Key) : Datum → Prop where
  | scalar (mark : Mark) (value : Scalar) (told : value = .fraction .undefined → mark ≠ none)
      (marked : ∀ site, mark = some site → made site = scalarKey mark value) :
      Plain made (.scalar mark value)
  | tuple (mark : Mark) (items : List Datum) (members : ∀ item ∈ items, Plain made item)
      (marked : ∀ site, mark = some site → made site = .tuple (keysOf items)) :
      Plain made (.list mark items)

variable {made : Site → Key}

/-- A scalar without a mark is plain unless it is no number at all. -/
theorem plain_scalar {value : Scalar} (defined : value ≠ .fraction .undefined) :
    Plain made (.scalar none value) :=
  .scalar none value (fun isUndefined => absurd isUndefined defined) nofun

/-- What is no number at all is plain by its mark only. -/
theorem Plain.site_of_undefined {mark : Mark} (plain : Plain made (.scalar mark (.fraction .undefined))) :
    ∃ site, mark = some site := by
  cases plain with
  | scalar _ _ told _ => exact Option.ne_none_iff_exists'.1 (told rfl)

/-- Quantities are equal exactly when they have one key, finite or not. -/
theorem equal_iff_quantityKey {left right : Quantity} :
    left.equal right = true ↔ quantityKey left = quantityKey right := by
  cases left <;> cases right <;> simp [Quantity.equal, quantityKey, Exact.equal_iff]

/-- A scalar that is a number has the key of this number, however it is written. -/
theorem scalarKey_of_number {mark : Mark} {value : Scalar} {number : Quantity}
    (isNumber : value.number? = some number) : scalarKey mark value = quantityKey number := by
  simp [scalarKey, isNumber]

/-- What is no number at all has no number, and neither have nothing and texts. -/
theorem number?_eq_none {value : Scalar} (noNumber : value.number? = none) :
    value = .null ∨ value = .fraction .undefined ∨ ∃ content, value = .str content := by
  cases value with
  | null => exact .inl rfl
  | bool | int => cases noNumber
  | fraction number =>
      cases number with
      | finite | infinite => cases noNumber
      | undefined => exact .inr (.inl rfl)
  | str content => exact .inr (.inr ⟨content, rfl⟩)

/-- Only what is no number at all has the key of such. -/
theorem eq_undefined_of_scalarKey {mark : Mark} {value : Scalar} {site : Site}
    (isKey : scalarKey mark value = .undefined site) :
    value = .fraction .undefined ∧ mark.getD [] = site := by
  cases isNumber : value.number? with
  | some number =>
      rw [scalarKey_of_number isNumber] at isKey
      cases number <;> cases isKey
  | none =>
      rcases number?_eq_none isNumber with rfl | rfl | ⟨content, rfl⟩
      · cases isKey
      · exact ⟨rfl, Key.undefined.inj isKey⟩
      · cases isKey

/-- A scalar never has the key of a tuple. -/
theorem scalarKey_ne_tuple (mark : Mark) (value : Scalar) (members : List Key) :
    scalarKey mark value ≠ .tuple members := by
  intro isKey
  cases isNumber : value.number? with
  | some number =>
      rw [scalarKey_of_number isNumber] at isKey
      cases number <;> cases isKey
  | none => rcases number?_eq_none isNumber with rfl | rfl | ⟨content, rfl⟩ <;> cases isKey

/-- What is not a number is equal to nothing, itself included. -/
theorem not_equal_undefined (right : Scalar) : (Scalar.fraction .undefined).equal right = false := by
  have noNumber : (Scalar.fraction .undefined).number? = none := rfl
  cases isRight : right.number? with
  | some number => simp only [Scalar.equal, noNumber, isRight]
  | none =>
      rcases number?_eq_none isRight with rfl | rfl | ⟨content, rfl⟩ <;> rfl

/-- Scalars of which the first is not undefined are equal when their keys are. -/
theorem equal_iff_scalarKey {left right : Scalar} (defined : left ≠ .fraction .undefined)
    (mark other : Mark) :
    left.equal right = true ↔ scalarKey mark left = scalarKey other right := by
  cases isLeft : left.number? with
  | some first =>
      cases isRight : right.number? with
      | some second =>
          rw [scalarKey_of_number isLeft, scalarKey_of_number isRight, ← equal_iff_quantityKey]
          simp only [Scalar.equal, isLeft, isRight]
      | none =>
          rw [scalarKey_of_number isLeft]
          simp only [Scalar.equal, isLeft, isRight]
          rcases number?_eq_none isRight with rfl | rfl | ⟨content, rfl⟩ <;>
            cases first <;> simp [scalarKey, quantityKey, isRight]
  | none =>
      cases isRight : right.number? with
      | some second =>
          rw [scalarKey_of_number isRight]
          simp only [Scalar.equal, isLeft, isRight]
          rcases number?_eq_none isLeft with rfl | rfl | ⟨content, rfl⟩ <;>
            cases second <;> simp [scalarKey, quantityKey, isLeft]
      | none =>
          rcases number?_eq_none isLeft with rfl | rfl | ⟨content, rfl⟩
          · rcases number?_eq_none isRight with rfl | rfl | ⟨other, rfl⟩ <;>
              simp [scalarKey, Scalar.equal, isLeft, isRight]
          · exact absurd rfl defined
          · rcases number?_eq_none isRight with rfl | rfl | ⟨other, rfl⟩ <;>
              simp [scalarKey, Scalar.equal, isLeft, isRight]

/-- Only marked data are ever one and the same, and then by one mark. -/
theorem eq_of_same {mark other : Mark} (same : mark.same other = true) :
    ∃ site, mark = some site ∧ other = some site := by
  unfold Mark.same at same
  split at same
  · rw [beq_iff_eq.1 same]
    exact ⟨_, rfl, rfl⟩
  · cases same

/-- What is found again as the same object stands for the same thing. -/
theorem keyOf_of_isSame {left right : Datum} (isLeft : Plain made left) (isRight : Plain made right)
    (same : left.isSame right = true) : keyOf left = keyOf right := by
  cases isLeft with
  | scalar mark value told marked =>
      cases isRight with
      | scalar other second toldOther markedOther =>
          rcases Bool.or_eq_true_iff.1 same with sameMark | shared
          · obtain ⟨site, rfl, rfl⟩ := eq_of_same sameMark
            exact (marked site rfl).symm.trans (markedOther site rfl)
          · have defined : value ≠ .fraction .undefined := by
              rintro rfl
              cases shared
            obtain rfl := Hash.equal_of_isShared shared
            exact (equal_iff_scalarKey defined mark other).1
              ((equal_iff_scalarKey defined mark mark).2 rfl)
      | tuple => cases same
  | tuple mark items members marked =>
      cases isRight with
      | scalar => cases same
      | tuple other others membersOther markedOther =>
          obtain ⟨site, rfl, rfl⟩ := eq_of_same same
          exact (marked site rfl).symm.trans (markedOther site rfl)

/-- A scalar is found again by its mark or as an equal one, and so by its key. -/
theorem found_scalar_iff {mark other : Mark} {left right : Scalar}
    (isLeft : Plain made (.scalar mark left)) (isRight : Plain made (.scalar other right)) :
    ((Datum.scalar mark left).isSame (.scalar other right) || left.equal right) = true ↔
      scalarKey mark left = scalarKey other right := by
  rw [Bool.or_eq_true]
  refine ⟨fun found => found.elim (keyOf_of_isSame isLeft isRight) fun equal => ?_, fun sameKey => ?_⟩
  · have defined : left ≠ .fraction .undefined := by
      rintro rfl
      rw [not_equal_undefined] at equal
      cases equal
    exact (equal_iff_scalarKey defined mark other).1 equal
  · by_cases defined : left = .fraction .undefined
    · subst defined
      obtain ⟨rfl, sameSite⟩ := eq_undefined_of_scalarKey sameKey.symm
      obtain ⟨site, rfl⟩ := isLeft.site_of_undefined
      obtain ⟨otherSite, rfl⟩ := isRight.site_of_undefined
      left
      exact Bool.or_eq_true_iff.2 (.inl (beq_iff_eq.2 sameSite.symm))
    · exact .inr ((equal_iff_scalarKey defined mark other).2 sameKey)

mutual

/-- Plain data are found again by their keys. -/
theorem found_iff_key : ∀ {left right : Datum}, Plain made left → Plain made right →
    ((left.isSame right || left.equal right) = true ↔ keyOf left = keyOf right)
  | .scalar _ first, .scalar _ second, isLeft, isRight => found_scalar_iff isLeft isRight
  | .scalar mark first, .list _ items, _, _ => by
      simpa [Datum.isSame, Datum.equal, keyOf] using scalarKey_ne_tuple mark first (keysOf items)
  | .list _ items, .scalar mark second, _, _ => by
      simpa [Datum.isSame, Datum.equal, keyOf] using (scalarKey_ne_tuple mark second (keysOf items)).symm
  | .list mark lefts, .list other rights, .tuple _ _ isLeft marked, .tuple _ _ isRight markedOther => by
      rw [Bool.or_eq_true, Datum.equal, equalAll_iff_keys isLeft isRight, keyOf, keyOf, Key.tuple.injEq]
      refine or_iff_right_of_imp fun same => ?_
      have sameKey := keyOf_of_isSame (.tuple _ _ isLeft marked) (.tuple _ _ isRight markedOther) same
      rwa [keyOf, keyOf, Key.tuple.injEq] at sameKey

/-- Lists of plain data are equal exactly when their keys are. -/
theorem equalAll_iff_keys : ∀ {lefts rights : List Datum}, (∀ item ∈ lefts, Plain made item) →
    (∀ item ∈ rights, Plain made item) →
      (Datum.equalAll lefts rights = true ↔ keysOf lefts = keysOf rights)
  | [], [], _, _ => by simp [Datum.equalAll, keysOf]
  | [], _ :: _, _, _ => by simp [Datum.equalAll, keysOf]
  | _ :: _, [], _, _ => by simp [Datum.equalAll, keysOf]
  | left :: lefts, right :: rights, isLeft, isRight => by
      have first := found_iff_key (isLeft left List.mem_cons_self) (isRight right List.mem_cons_self)
      have rest := equalAll_iff_keys (fun item inside => isLeft item (List.mem_cons_of_mem _ inside))
        fun item inside => isRight item (List.mem_cons_of_mem _ inside)
      rw [Datum.equalAll, Bool.and_eq_true, first, rest, keysOf, keysOf, List.cons.injEq]

end

end Label

/-- Plain labels are told apart by their keys. -/
theorem Contraction.tells_plain {made : Site → Label.Key} {used : Label → Prop}
    (plain : ∀ label, used label → Label.Plain made label.datum) : Tells Label.key used :=
  fun left right usesLeft usesRight =>
    Label.found_iff_key (plain left usesLeft) (plain right usesRight)

end TensorLogic
