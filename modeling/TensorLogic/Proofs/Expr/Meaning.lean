/-
Module: TensorLogic.Proofs.Expr.Meaning
Purpose: In an algebra whose operations compute what their names say, an expression has the value that
  it has on plain truth values.
Main exports: Valuation.bridge, Valuation.Means, Valuation.Interprets.respects
-/
import TensorLogic.Proofs.Algebra.Truth
import TensorLogic.Proofs.Expr.Correspondence

namespace TensorLogic

namespace Valuation

variable {σ τ β γ : Type} (valuation : Valuation σ (Value β))

variable (τ) in
/-- The states of an algebra with a valuation, beside states that do not matter. -/
def bridge : Bridge σ τ where
  Valid := fun states => valuation.Valid states.1
  Reaches := fun states next => valuation.Reaches states.1 next.1
  reaches_refl := fun states => valuation.reaches_refl states.1
  reaches_trans := valuation.reaches_trans

/-- A live element means a truth value if it has that value wherever values are known. -/
def Means (states : σ × τ) (element : Value β) (truth : Value γ) : Prop :=
  valuation.Live states.1 element ∧ ∃ value : Bool,
    truth = .bool value ∧ (valuation.Consistent states.1 → valuation.value element = value)

variable {valuation} {states : σ × τ}

/-- Elements with a meaning are live, and their meanings are truth values, which they have wherever the
state is consistent. -/
theorem Means.exists_values {elements : List (Value β)} {truths : List (Value γ)}
    (means : List.Forall₂ (valuation.Means states) elements truths) :
    (∀ element ∈ elements, valuation.Live states.1 element) ∧ ∃ values : List Bool,
      truths = values.map (fun value => .bool value) ∧ values.length = elements.length ∧
        (valuation.Consistent states.1 → elements.map valuation.value = values) := by
  induction means with
  | nil => exact ⟨fun _ member => (nomatch member), [], rfl, rfl, fun _ => rfl⟩
  | cons head _ hypothesis =>
      obtain ⟨live, value, rfl, valued⟩ := head
      obtain ⟨liveRest, values, rfl, sameLength, valuedRest⟩ := hypothesis
      refine ⟨?_, value :: values, rfl, ?_, fun consistent => ?_⟩
      · intro element member
        rcases List.mem_cons.1 member with rfl | inside
        · exact live
        · exact liveRest element inside
      · rw [List.length_cons, List.length_cons, sameLength]
      · rw [List.map_cons, valued consistent, valuedRest consistent]

/-- A computation of an element corresponds to the truth value that the element has. -/
theorem Computes.corresponds {action : Act σ (Value β)} {value other : Bool}
    (computes : valuation.Computes states.1 action value)
    (same : valuation.Consistent states.1 → value = other) :
    (valuation.bridge τ).Corresponds states action
      (Pure.pure (Truth.ofBool other) : Act τ (Value γ)) valuation.Means := by
  intro valid
  obtain ⟨result, next, ran, validNext, reached, live, valued⟩ := computes valid
  unfold Bridge.after
  rw [ran, Act.runOn_pure, Value.ofBool_eq]
  refine ⟨validNext, reached, .ok ⟨live, other, rfl, fun consistent => ?_⟩⟩
  rw [valued consistent, same (valuation.consistent_of_reaches reached consistent)]

/-- A failure corresponds to the same failure. -/
theorem corresponds_of_error {action : Act σ (Value β)} {fault : Fault}
    (failed : action.runOn states.1 = (.error fault, states.1)) :
    (valuation.bridge τ).Corresponds states action
      (MonadExcept.throw fault : Act τ (Value γ)) valuation.Means :=
  .of_runs failed rfl id (valuation.reaches_refl states.1) (.error fault)

variable [HasJournal σ] [HasJournal τ]

variable (valuation) in
/-- What an expression may rely on beyond the operations of an algebra: announcements change nothing
that matters, and elements have no identity of their own. -/
structure Bears : Prop where
  note : ∀ event state, valuation.Valid state →
    valuation.Valid (HasJournal.note event state) ∧
      valuation.Reaches state (HasJournal.note event state)
  placed : ∀ state element site, valuation.Live state element → element.placed site = element

/-- An algebra whose operations compute what their names say treats its elements as the truth values are
treated that they mean. -/
theorem Interprets.respects {algebra : BoolAlgebra σ (Value β)}
    (interprets : valuation.Interprets algebra) (bears : valuation.Bears) :
    algebra.Respects (valuation.bridge τ) valuation.Means
      (Truth.algebra : BoolAlgebra τ (Value γ)) where
  keeps := fun event states valid => bears.note event states.1 valid
  stable := by
    rintro states next element _ reached ⟨live, value, rfl, valued⟩
    exact ⟨valuation.live_of_reaches reached live, value, rfl, fun consistent =>
      valued (valuation.consistent_of_reaches reached consistent)⟩
  fixed := by
    rintro states element _ site ⟨live, value, rfl, _⟩
    exact ⟨bears.placed states.1 element site live, rfl⟩
  bot := fun states valid => ⟨interprets.fixes.live_bot states.1 valid, false, rfl,
    interprets.fixes.value_bot states.1 valid⟩
  top := fun states valid => ⟨interprets.fixes.live_top states.1 valid, true, rfl,
    interprets.fixes.value_top states.1 valid⟩
  lift := fun states valid truth =>
    have ⟨live, valued⟩ := interprets.lift states.1 truth valid
    ⟨live, truth, Value.ofBool_eq truth, valued⟩
  neg := by
    rintro states element _ ⟨live, value, rfl, valued⟩
    rw [Truth.neg_eq]
    refine (interprets.neg states.1 element live).corresponds fun consistent => ?_
    rw [valued consistent]
    rfl
  connective := by
    rintro connective states first _ second _ ⟨liveFirst, value, rfl, valued⟩
      ⟨liveSecond, other, rfl, valuedSecond⟩
    rw [Truth.connective_eq]
    refine (interprets.connective connective states.1 first second liveFirst
      liveSecond).corresponds fun consistent => ?_
    rw [valued consistent, valuedSecond consistent]
    rfl
  aggregate := by
    intro aggregate states elements truths means
    obtain ⟨live, values, rfl, sameLength, valued⟩ := Means.exists_values means
    have realizes := interprets.aggregate aggregate states.1 elements live
    have sameDefined := aggregate.isSome_eval
      ((List.length_map valuation.value).trans sameLength.symm)
    rw [Truth.aggregate_eq, Value.values_bool]
    cases isValue : aggregate.eval (elements.map valuation.value) with
    | none =>
        rw [isValue] at realizes sameDefined
        have noOther : aggregate.eval values = none := Option.isNone_iff_eq_none.1
          (Option.isSome_eq_false_iff.1 sameDefined.symm)
        rw [noOther]
        exact corresponds_of_error realizes
    | some value =>
        rw [isValue] at realizes sameDefined
        obtain ⟨other, isOther⟩ := Option.isSome_iff_exists.1 sameDefined.symm
        rw [isOther]
        refine Computes.corresponds realizes fun consistent => ?_
        rw [valued consistent, isOther] at isValue
        exact (Option.some.inj isValue).symm
  compare := by
    intro comparison states lefts truths rights others means meansRight
    obtain ⟨live, values, rfl, sameLength, valued⟩ := Means.exists_values means
    obtain ⟨liveRight, valuesRight, rfl, sameLengthRight, valuedRight⟩ :=
      Means.exists_values meansRight
    have realizes := interprets.compare comparison states.1 lefts rights live liveRight
    have sameDefined := comparison.isSome_eval
      ((List.length_map valuation.value).trans sameLength.symm)
      ((List.length_map valuation.value).trans sameLengthRight.symm)
    rw [Truth.compare_eq, Value.values_bool, Value.values_bool, List.length_map, List.length_map,
      sameLength, sameLengthRight]
    cases isValue : comparison.eval (lefts.map valuation.value) (rights.map valuation.value) with
    | none =>
        rw [isValue] at realizes sameDefined
        have noOther : comparison.eval values valuesRight = none := Option.isNone_iff_eq_none.1
          (Option.isSome_eq_false_iff.1 sameDefined.symm)
        rw [noOther]
        exact corresponds_of_error realizes
    | some value =>
        rw [isValue] at realizes sameDefined
        obtain ⟨other, isOther⟩ := Option.isSome_iff_exists.1 sameDefined.symm
        rw [isOther]
        refine Computes.corresponds realizes fun consistent => ?_
        rw [valued consistent, valuedRight consistent, isOther] at isValue
        exact (Option.some.inj isValue).symm

end Valuation

end TensorLogic
