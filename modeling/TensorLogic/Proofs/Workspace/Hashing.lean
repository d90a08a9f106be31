/-
Module: TensorLogic.Proofs.Workspace.Hashing
Purpose: Equal data have equal hashes, and so have equal tensors.
Main exports: Hash.ofNumber_eq, Hash.ofDatum_eq, Datum.Coherent, Tensor.hash_eq_of_equal,
  Tensor.hash_placed, Tensor.exists_hash_iff
-/
import Mathlib.Data.Nat.ModEq
import TensorLogic.Proofs.Effect.Outcome
import TensorLogic.Workspace

namespace TensorLogic

/-!
Numbers of different kinds are equal when their values are, although one value can be written with different
powers of two.  Their hash is the residue of the value modulo a Mersenne prime, for which the sixty-first
power of two is one; so it does not depend on how the value is written, nor does the hash of a tensor that
is made up of such hashes.
-/

namespace Hash

/-! ## Numbers -/

/-- Powers of two come round after 61 steps, since the modulus is one less than such a power. -/
theorem two_pow_modEq (exponent : Nat) : 2 ^ exponent ≡ 2 ^ (exponent % 61) [MOD modulus] := by
  have turned : 2 ^ 61 ≡ 1 [MOD modulus] := by decide
  have split : 2 ^ exponent = (2 ^ 61) ^ (exponent / 61) * 2 ^ (exponent % 61) := by
    rw [← pow_mul, ← pow_add, Nat.div_add_mod]
  rw [split]
  simpa using (turned.pow (exponent / 61)).mul_right (2 ^ (exponent % 61))

/-- A power of two can be moved from the exponent of a number to its mantissa. -/
theorem ofNumber_shift (mantissa exponent : Int) (places : Nat) :
    ofNumber ⟨mantissa * 2 ^ places, exponent⟩ = ofNumber ⟨mantissa, exponent + places⟩ := by
  have positive : (0 : Int) < 2 ^ places := Int.pow_pos (by decide)
  have sameSign : mantissa * 2 ^ places < 0 ↔ mantissa < 0 := by
    constructor
    · intro isNegative
      by_contra notNegative
      have product := Int.mul_nonneg (Int.not_lt.1 notNegative) (Int.le_of_lt positive)
      exact Int.not_lt.2 product isNegative
    · intro isNegative
      exact Int.mul_neg_of_neg_of_pos isNegative positive
  have exponents : ((exponent + places).emod 61).toNat =
      (places + (exponent.emod 61).toNat) % 61 := by
    change ((exponent + places) % 61).toNat = (places + (exponent % 61).toNat) % 61
    omega
  have sameResidue : (mantissa * 2 ^ places).natAbs * 2 ^ (exponent.emod 61).toNat % modulus =
      mantissa.natAbs * 2 ^ ((exponent + places).emod 61).toNat % modulus := by
    have turned := (two_pow_modEq (places + (exponent.emod 61).toNat)).mul_left mantissa.natAbs
    rw [← exponents, pow_add, ← Nat.mul_assoc] at turned
    rw [Int.natAbs_mul, Int.natAbs_pow]
    exact turned
  simp only [ofNumber, Nat.pow_eq, sameResidue, sameSign]

/-- Equal numbers have equal hashes. -/
theorem ofNumber_eq {left right : Exact} (equal : left.equal right = true) :
    ofNumber left = ofNumber right := by
  rcases left with ⟨first, low⟩
  rcases right with ⟨second, high⟩
  simp only [Exact.equal, Exact.align, beq_iff_eq, Nat.pow_eq] at equal
  rcases Int.le_total low high with isLow | isHigh
  · have none : (low - high).toNat = 0 := by omega
    have isFirst : first = second * 2 ^ (high - low).toNat := by simpa [none] using equal
    have isExponent : low + (high - low).toNat = high := by omega
    rw [isFirst, ofNumber_shift, isExponent]
  · have none : (high - low).toNat = 0 := by omega
    have isSecond : first * 2 ^ (low - high).toNat = second := by simpa [none] using equal
    have isExponent : high + (low - high).toNat = low := by omega
    rw [← isSecond, ofNumber_shift, isExponent]

/-- Equal quantities have equal hashes, infinite ones too. -/
theorem ofQuantity_eq {left right : Quantity} (equal : left.equal right = true) :
    ofQuantity left = ofQuantity right := by
  cases left with
  | finite first =>
      cases right with
      | finite second => exact ofNumber_eq equal
      | infinite negative => cases equal
  | infinite negative =>
      cases right with
      | finite second => cases equal
      | infinite other => rw [beq_iff_eq.1 equal]

/-! ## Data -/

/-- Equal scalars have equal hashes, whatever their marks are. -/
theorem ofDatum_scalar {left right : Scalar} (equal : left.equal right = true) (mark other : Mark) :
    ofDatum (.scalar mark left) = ofDatum (.scalar other right) := by
  unfold Scalar.equal at equal
  cases isLeft : left.number? with
  | some first =>
      cases isRight : right.number? with
      | some second =>
          simp only [isLeft, isRight] at equal
          simp only [ofDatum, isLeft, isRight, ofQuantity_eq equal]
      | none => simp [isLeft, isRight] at equal
  | none =>
      cases isRight : right.number? with
      | some second => simp [isLeft, isRight] at equal
      | none =>
          simp only [isLeft, isRight] at equal
          split at equal
          · rw [beq_iff_eq.1 equal]
            rfl
          · rfl
          · cases equal

/-- Objects of which there is only one are equal. -/
theorem equal_of_isShared {left right : Scalar} (shared : left.isShared right = true) : left = right := by
  unfold Scalar.isShared at shared
  split at shared
  · rfl
  · rw [beq_iff_eq.1 shared]
  · simp only [Bool.and_eq_true, beq_iff_eq] at shared
    rw [shared.1]
  · simp only [Bool.and_eq_true, beq_iff_eq] at shared
    rw [shared.1]
  · cases shared

end Hash

/-- Whether among some data and others a scalar that is an object has one value. -/
def Datum.Coherent (lefts rights : List Datum) : Prop :=
  ∀ (site : Site) (value other : Scalar), Datum.scalar (some site) value ∈ lefts →
    Datum.scalar (some site) other ∈ rights → value = other

namespace Hash

/-- What is the same or equal has the same hash, or neither of them has one. -/
theorem ofDatum_eq {left right : Datum}
    (coherent : ∀ (site : Site) (value other : Scalar), left = .scalar (some site) value →
      right = .scalar (some site) other → value = other)
    (equal : left.isSame right = true ∨ left.equal right = true) :
    ofDatum left = ofDatum right := by
  cases left with
  | scalar mark value =>
      cases right with
      | scalar other number =>
          rcases equal with isSame | equal
          · simp only [Datum.isSame, Bool.or_eq_true] at isSame
            rcases isSame with sameMark | shared
            · cases mark with
              | none => cases sameMark
              | some site =>
                  cases other with
                  | none => cases sameMark
                  | some place =>
                      obtain rfl : site = place := by simpa [Mark.same] using sameMark
                      rw [coherent site value number rfl rfl]
            · rw [equal_of_isShared shared]
              rfl
          · exact ofDatum_scalar (by simpa [Datum.equal] using equal) mark other
      | list other items => simp [Datum.isSame, Datum.equal] at equal
  | list mark items =>
      cases right with
      | scalar other number => simp [Datum.isSame, Datum.equal] at equal
      | list other items => rfl

/-- Equal lists have equal hashes, member by member, or the same member is refused. -/
theorem mapM_ofDatum_eq {lefts rights : List Datum} (coherent : Datum.Coherent lefts rights)
    (equal : Datum.equalAll lefts rights = true) : lefts.mapM ofDatum = rights.mapM ofDatum := by
  induction lefts generalizing rights with
  | nil =>
      cases rights with
      | nil => rfl
      | cons => simp [Datum.equalAll] at equal
  | cons left lefts hypothesis =>
      cases rights with
      | nil => simp [Datum.equalAll] at equal
      | cons right rights =>
          simp only [Datum.equalAll, Bool.and_eq_true, Bool.or_eq_true] at equal
          have first : ofDatum left = ofDatum right := ofDatum_eq (fun site value other isLeft isRight =>
            coherent site value other (by simp [isLeft]) (by simp [isRight])) equal.1
          have rest : lefts.mapM ofDatum = rights.mapM ofDatum :=
            hypothesis (fun site value other isLeft isRight => coherent site value other
              (List.mem_cons_of_mem _ isLeft) (List.mem_cons_of_mem _ isRight)) equal.2
          rw [List.mapM_cons, List.mapM_cons, first, rest]

/-- The hash of a datum does not depend on which object it is. -/
theorem ofDatum_placed (site : Site) (datum : Datum) : ofDatum (datum.placed site) = ofDatum datum := by
  cases datum with
  | scalar mark value => cases mark <;> simp [Datum.placed, ofDatum]
  | list mark items => cases mark <;> simp [Datum.placed, ofDatum]

theorem mapM_ofDatum_placedAll (site : Site) (number : Nat) (data : List Datum) :
    (Datum.placedAll site number data).mapM ofDatum = data.mapM ofDatum := by
  induction data generalizing number with
  | nil => simp [Datum.placedAll]
  | cons datum data hypothesis =>
      simp [Datum.placedAll, List.mapM_cons, ofDatum_placed, hypothesis]

end Hash

/-! ## Tensors -/

namespace Tensor

variable {left right tensor : Tensor Datum}

/-- The hash of a tensor is made of the values of its dimensions and the hashes of its elements. -/
theorem hash_congr (agree : Shape.Agree left.shape right.shape)
    (elements : left.toList.mapM Hash.ofDatum = right.toList.mapM Hash.ofDatum) :
    left.hash = right.hash := by
  have dimensions : ∀ shape : Shape, shape.mapM dimensionWord =
      shape.values.mapM fun value => dimensionWord (.number value) := by
    intro shape
    rw [Shape.values, List.mapM_map]
    rfl
  rw [hash, hash, dimensions, dimensions, agree, elements]

/-- Equal tensors have equal hashes. -/
theorem hash_eq_of_equal (coherent : Datum.Coherent left.toList right.toList)
    (equal : left.equal right = true) : left.hash = right.hash := by
  simp only [Tensor.equal, Bool.and_eq_true, decide_eq_true_eq] at equal
  exact hash_congr equal.1 (Hash.mapM_ofDatum_eq coherent equal.2)

/-- A tensor that comes into a workspace keeps its hash. -/
theorem hash_placed (tensor : Tensor Datum) (site : Site) : (tensor.placed site).hash = tensor.hash :=
  hash_congr (Shape.Agree.refl _) (Hash.mapM_ofDatum_placedAll site 0 tensor.toList)

/-- A dimension is hashed exactly when it fits into a word. -/
theorem dimensionWord_eq_ok_iff {dimension : Count} :
    (∃ word, dimensionWord dimension = .ok word) ↔ dimension.value < wordLimit := by
  unfold dimensionWord
  by_cases isHuge : wordLimit ≤ dimension.value
  · simp [isHuge]
  · simp [isHuge, Nat.lt_of_not_le isHuge]

/-- A tensor has a hash where its dimensions fit into words and its elements have hashes. -/
theorem exists_hash_iff : (∃ digest, tensor.hash = .ok digest) ↔
    (∀ dimension ∈ tensor.shape, dimension.value < wordLimit) ∧
      ∀ element ∈ tensor.toList, ∃ number, Hash.ofDatum element = .ok number := by
  constructor
  · rintro ⟨digest, isHash⟩
    rcases Outcome.bind_eq_ok_iff.1 isHash with ⟨words, areWords, rest⟩
    rcases Outcome.bind_eq_ok_iff.1 rest with ⟨numbers, areNumbers, _⟩
    constructor
    · intro dimension listed
      rcases Outcome.exists_of_mem areWords listed with ⟨word, _, isWord⟩
      exact dimensionWord_eq_ok_iff.1 ⟨word, isWord⟩
    · intro element listed
      rcases Outcome.exists_of_mem areNumbers listed with ⟨number, _, isNumber⟩
      exact ⟨number, isNumber⟩
  · rintro ⟨fit, hashable⟩
    rcases Outcome.exists_mapM fun dimension listed => dimensionWord_eq_ok_iff.2 (fit dimension listed)
      with ⟨words, areWords⟩
    rcases Outcome.exists_mapM hashable with ⟨numbers, areNumbers⟩
    refine ⟨Hash.digest (words ++ numbers.map Hash.word), ?_⟩
    rw [hash, areWords, areNumbers]
    rfl

end Tensor

end TensorLogic
