/-
Module: TensorLogic.Proofs.Algebra.Overrides
Purpose: On elements that count as true or false the ordinary operations are those that the algebra of the
  two truth values inherits.
Main exports: Act.Coincides, Truth.interprets_minimal, Truth.Overrides, Truth.overrides_minimal
-/
import TensorLogic.Algebra.Pointwise
import TensorLogic.Proofs.Algebra.Inherited
import TensorLogic.Proofs.Tensor.Related

namespace TensorLogic

variable {σ τ α β γ δ ε ζ : Type}

/-- Two computations do nothing to any state.  Unless they are refused they return related results; they are
refused under the given condition only, and then both for the same reason, which is that a value is
wrong. -/
inductive Act.Coincides (Refused : Prop) (Related : α → β → Prop) : Act σ α → Act τ β → Prop where
  | returned {result : α} {other : β} (accepted : ¬Refused) (related : Related result other) :
      Coincides Refused Related (pure result) (pure other)
  | refused {fault : Fault} (isRefused : Refused) (isValue : fault.category = .value) :
      Coincides Refused Related (throw fault) (throw fault)

namespace Act.Coincides

variable {Refused : Prop} {Related : α → β → Prop} {Other : γ → δ → Prop} {Result : ε → ζ → Prop}
  {left : Act σ α} {right : Act τ β}

theorem congr {Condition : Prop} (same : Refused ↔ Condition)
    (coincides : Coincides Refused Related left right) : Coincides Condition Related left right := by
  cases coincides with
  | returned accepted related => exact returned (mt same.2 accepted) related
  | refused isRefused isValue => exact refused (same.1 isRefused) isValue

/-- Two computations that take turns coincide, and what they refuse is what their steps refuse. -/
theorem bind {Later : Prop} {next : α → Act σ γ} {nextRight : β → Act τ δ}
    (first : Coincides Refused Related left right)
    (rest : ∀ result other, Related result other →
      Coincides Later Other (next result) (nextRight other)) :
    Coincides (Refused ∨ Later) Other (left >>= next) (right >>= nextRight) := by
  cases first with
  | returned accepted related =>
      exact (rest _ _ related).congr ⟨Or.inr, fun either => either.resolve_left accepted⟩
  | refused isRefused isValue => exact refused (Or.inl isRefused) isValue

/-- What follows the first step is never refused. -/
theorem thenReturned {next : α → Act σ γ} {nextRight : β → Act τ δ}
    (first : Coincides Refused Related left right)
    (rest : ∀ result other, Related result other →
      Coincides False Other (next result) (nextRight other)) :
    Coincides Refused Other (left >>= next) (right >>= nextRight) :=
  (first.bind rest).congr (or_iff_left not_false)

/-- Visiting members that are related coincides, and is refused where one of the members is. -/
theorem visit {RefusedAt : α → Prop} {function : α → Act σ γ} {other : β → Act τ δ}
    (each : ∀ first second, Related first second →
      Coincides (RefusedAt first) Other (function first) (other second))
    {lefts : List α} {rights : List β} (related : List.Forall₂ Related lefts rights) :
    Coincides (∃ member ∈ lefts, RefusedAt member)
      (fun results others => List.Forall₂ Other results.1 others.1)
      (visit function lefts) (TensorLogic.visit other rights) := by
  induction related with
  | nil => exact returned (by simp) .nil
  | cons head _ hypothesis =>
      refine congr ?_ ((each _ _ head).bind fun result other found =>
        hypothesis.thenReturned fun results others rest => returned id (.cons found rest))
      simp

theorem visit2 {function : α → γ → Act σ ε} {other : β → δ → Act τ ζ}
    (each : ∀ first second third fourth, Related first second → Other third fourth →
      Coincides False Result (function first third) (other second fourth))
    {lefts : List α} {rights : List β} {others : List γ} {otherRights : List δ}
    (related : List.Forall₂ Related lefts rights) (further : List.Forall₂ Other others otherRights)
    (counted : lefts.length = others.length) (countedRight : rights.length = otherRights.length) :
    Coincides False (fun results others => List.Forall₂ Result results.1 others.1)
      (visit2 function lefts others counted)
      (TensorLogic.visit2 other rights otherRights countedRight) := by
  induction related generalizing others otherRights with
  | nil =>
      cases further with
      | nil => exact returned id .nil
      | cons => cases counted
  | cons head _ hypothesis =>
      cases further with
      | nil => cases counted
      | cons headOther tailOther =>
          refine (each _ _ _ _ head headOther).thenReturned fun result other found => ?_
          exact (hypothesis tailOther (Nat.succ.inj counted) (Nat.succ.inj countedRight)).thenReturned
            fun results others rest => returned id (.cons found rest)

theorem mapM {function : α → Act σ γ} {other : β → Act τ δ}
    (each : ∀ first second, Related first second →
      Coincides False Other (function first) (other second))
    {tensor : Tensor α} {image : Tensor β} (related : Tensor.Related Related tensor image) :
    Coincides False (Tensor.Related Other) (tensor.mapM function) (image.mapM other) := by
  refine congr ?_ ((visit each related.elements).thenReturned fun _ _ found =>
    returned id ⟨related.shape_eq, found⟩)
  simp

/-- Going through two pairs of tensors coincides, and is refused where the shapes disagree. -/
theorem map2 {function : α → γ → Act σ ε} {other : β → δ → Act τ ζ}
    (each : ∀ first second third fourth, Related first second → Other third fourth →
      Coincides False Result (function first third) (other second fourth))
    {tensor : Tensor α} {image : Tensor β} {further : Tensor γ} {furtherImage : Tensor δ}
    (related : Tensor.Related Related tensor image)
    (relatedFurther : Tensor.Related Other further furtherImage) :
    Coincides (¬Shape.Agree tensor.shape further.shape) (Tensor.Related Result)
      (tensor.map2 function further) (image.map2 other furtherImage) := by
  unfold Tensor.map2
  by_cases agree : Shape.Agree tensor.shape further.shape
  · have agreeImage : Shape.Agree image.shape furtherImage.shape := by
      rw [← related.shape_eq, ← relatedFurther.shape_eq]
      exact agree
    rw [dif_pos agree, dif_pos agreeImage]
    refine congr ?_ ((visit2 each related.elements relatedFurther.elements _ _).thenReturned
      fun _ _ found => returned id ⟨related.shape_eq, found⟩)
    exact iff_of_false not_false (not_not_intro agree)
  · have differ : ¬Shape.Agree image.shape furtherImage.shape := by
      rw [← related.shape_eq, ← relatedFurther.shape_eq]
      exact agree
    rw [dif_neg agree, dif_neg differ, related.shape_eq, relatedFurther.shape_eq]
    exact refused (related.shape_eq ▸ relatedFurther.shape_eq ▸ agree) rfl

/-- Folding coincides, and is refused for a wrong number of axes or where one of the slices is. -/
theorem fold {RefusedAt : List α → Prop} {function : List α → Act σ γ} {other : List β → Act τ δ}
    (each : ∀ lefts rights, List.Forall₂ Related lefts rights →
      Coincides (RefusedAt lefts) Other (function lefts) (other rights))
    (count : Whole) {tensor : Tensor α} {image : Tensor β}
    (related : Tensor.Related Related tensor image) :
    Coincides (¬(0 ≤ count.value ∧ count.value ≤ tensor.order) ∨
        ∃ slice ∈ tensor.slices count.value.toNat, RefusedAt slice)
      (Tensor.Related Other) (tensor.fold function count) (image.fold other count) := by
  have sameOrder : image.order = tensor.order := by
    rw [Tensor.order, Tensor.order, related.shape_eq]
  unfold Tensor.fold
  rw [sameOrder]
  by_cases inside : 0 ≤ count.value ∧ count.value ≤ tensor.order
  · rw [if_pos inside, if_pos inside]
    refine ((visit each (related.slices count.value.toNat)).thenReturned
      fun _ _ found => returned id ⟨?_, found⟩).congr (or_iff_right (not_not_intro inside)).symm
    change tensor.shape.drop _ = image.shape.drop _
    rw [related.shape_eq]
  · rw [if_neg inside, if_neg inside]
    exact refused (Or.inl inside) rfl

end Act.Coincides

namespace Truth

/-! ## What the algebra of the two truth values inherits -/

/-- Truth values are read as themselves, and nothing may happen to a state. -/
def itself : Valuation σ Bool where
  Valid := fun _ => True
  Reaches := Eq
  Live := fun _ _ => True
  Consistent := fun _ => True
  value := fun element => element
  reaches_refl := fun _ => rfl
  reaches_trans := Eq.trans
  live_of_reaches := fun _ _ => trivial
  consistent_of_reaches := fun _ _ => trivial

theorem ofBool_bool (value : Bool) : (ofBool value : Bool) = value := by
  cases value <;> rfl

/-- Negation and conjunction do nothing to a state, so that all that is derived from them does nothing. -/
theorem interprets_minimal : (itself : Valuation σ Bool).Interprets minimal := by
  refine Valuation.interprets_inherit ⟨fun _ _ => trivial, fun _ _ => trivial, fun _ _ _ => rfl,
    fun _ _ _ => rfl⟩ (fun state element _ => ?_) fun state left right _ _ => ?_
  · exact .pure trivial fun _ => ofBool_bool _
  · refine .pure trivial fun _ => ?_
    cases left <;> rfl

/-- What computes a value in every state without doing anything to it returns this value. -/
theorem eq_pure_of_computes {action : Act σ Bool} {value : Bool}
    (computes : ∀ state, itself.Computes state action value) : action = pure value := by
  funext state
  obtain ⟨result, next, ran, _, same, _, valued⟩ := computes state trivial
  have isValue : result = value := valued trivial
  rw [same, ← isValue]
  exact same ▸ ran

theorem minimal_neg (element : Bool) :
    (minimal : BoolAlgebra σ Bool).neg element = pure !element :=
  eq_pure_of_computes fun state => interprets_minimal.neg state element trivial

/-- Each connective of the algebra without overrides has its meaning, although most of them are inherited.
-/
theorem minimal_connective (connective : Connective) (left right : Bool) :
    (minimal : BoolAlgebra σ Bool).connective connective left right =
      pure (connective.eval left right) :=
  eq_pure_of_computes fun state =>
    interprets_minimal.connective connective state left right trivial trivial

/-- What computes a value or fails, the same in every state, is that value or that fault. -/
theorem eq_of_realizes {action : Act σ Bool} {meaning : Option Bool} {fault : Fault} :
    (∀ state : σ,
      match meaning with
      | some value => itself.Computes state action value
      | none => action.runOn state = (.error fault, state)) →
    action =
      match meaning with
      | some value => pure value
      | none => throw fault := by
  intro realizes
  cases meaning with
  | some value => exact eq_pure_of_computes realizes
  | none => exact funext realizes

theorem map_value_itself (elements : List Bool) :
    elements.map (itself : Valuation σ Bool).value = elements := List.map_id elements

/-- Each aggregate of the algebra without overrides has its meaning, and is refused where it has none. -/
theorem minimal_aggregate (aggregate : Aggregate) (elements : List Bool) :
    (minimal : BoolAlgebra σ Bool).aggregate aggregate elements =
      match aggregate.eval elements with
      | some value => pure value
      | none => throw .emptyEquality := by
  refine eq_of_realizes fun state => ?_
  have realizes := interprets_minimal.aggregate aggregate state elements fun _ _ => trivial
  rwa [map_value_itself] at realizes

/-- Each comparison of the algebra without overrides has its meaning, and is refused where it has none. -/
theorem minimal_compare (comparison : Comparison) (lefts rights : List Bool) :
    (minimal : BoolAlgebra σ Bool).compare comparison lefts rights =
      match comparison.eval lefts rights with
      | some value => pure value
      | none => throw (comparison.lengthFault lefts.length rights.length) := by
  refine eq_of_realizes fun state => ?_
  have realizes := interprets_minimal.compare comparison state lefts rights (fun _ _ => trivial)
    fun _ _ => trivial
  rwa [map_value_itself, map_value_itself] at realizes

/-! ## The ordinary operations -/

variable {V : Type} [TruthValued V]

/-- An element counts as a truth value. -/
def CountsAs (element : V) (value : Bool) : Prop := TruthValued.truth element = value

/-- An element is a truth value: not only one that counts as it. -/
def IsTruth (element : V) (value : Bool) : Prop := element = ofBool value

/-- An algebra on elements that count as true or false has the operations of an algebra on truth values.
Applied to any elements its operations return truth values, namely those that the operations of the other
algebra return for what the elements count as.  Equality of no elements, orders of sequences of different
lengths, connectives of tensors of different shapes and folds of axes that a tensor does not have are
refused in both, for the same reason, and nothing else is. -/
structure Overrides (algebra : BoolAlgebra σ V) (inherited : BoolAlgebra τ Bool) : Prop where
  lift : ∀ element : V,
    IsTruth (algebra.lift (TruthValued.truth element)) (inherited.lift (TruthValued.truth element))
  neg : ∀ element,
    Act.Coincides False IsTruth (algebra.neg element) (inherited.neg (TruthValued.truth element))
  connective : ∀ connective left right,
    Act.Coincides False IsTruth (algebra.connective connective left right)
      (inherited.connective connective (TruthValued.truth left) (TruthValued.truth right))
  aggregate : ∀ aggregate elements,
    Act.Coincides (aggregate = .allEqual ∧ elements = []) IsTruth
      (algebra.aggregate aggregate elements) (inherited.aggregate aggregate (values elements))
  compare : ∀ comparison lefts rights,
    Act.Coincides (lefts.length ≠ rights.length) IsTruth (algebra.compare comparison lefts rights)
      (inherited.compare comparison (values lefts) (values rights))
  negTensor : ∀ tensor,
    Act.Coincides False (Tensor.Related IsTruth) (algebra.negTensor tensor)
      (inherited.negTensor (tensor.map TruthValued.truth))
  liftTensor : ∀ tensor : Tensor V,
    Tensor.Related IsTruth (algebra.liftTensor TruthValued.truth tensor)
      (inherited.liftTensor TruthValued.truth (tensor.map TruthValued.truth))
  connectiveTensor : ∀ connective left right,
    Act.Coincides (¬Shape.Agree left.shape right.shape) (Tensor.Related IsTruth)
      (algebra.connectiveTensor connective left right)
      (inherited.connectiveTensor connective (left.map TruthValued.truth)
        (right.map TruthValued.truth))
  foldTensor : ∀ aggregate tensor count,
    let folded := count.getD (.number tensor.order)
    Act.Coincides
      (¬(0 ≤ folded.value ∧ folded.value ≤ tensor.order) ∨
        ∃ slice ∈ tensor.slices folded.value.toNat, aggregate = .allEqual ∧ slice = [])
      (Tensor.Related IsTruth) (algebra.foldTensor aggregate tensor count)
      (inherited.foldTensor aggregate (tensor.map TruthValued.truth) count)

theorem counts_values (elements : List V) : List.Forall₂ CountsAs elements (values elements) := by
  rw [values, List.forall₂_map_right_iff, List.forall₂_same]
  exact fun _ _ => rfl

/-- Elements count as one list of truth values only. -/
theorem values_eq_of_counts {elements : List V} {truths : List Bool}
    (counted : List.Forall₂ CountsAs elements truths) : values elements = truths := by
  rw [values, ← List.forall₂_eq_eq_eq, List.forall₂_map_left_iff]
  exact counted

/-- The elements of a tensor count as those of the tensor of what they count as. -/
theorem counts_tensor (tensor : Tensor V) :
    Tensor.Related CountsAs tensor (tensor.map TruthValued.truth) :=
  ⟨rfl, counts_values tensor.toList⟩

/-- The one algebra gives back the truth value itself, the other one chooses between its constants. -/
theorem isTruth_lift (value : Bool) :
    IsTruth ((algebra : BoolAlgebra σ V).lift value) ((minimal : BoolAlgebra τ Bool).lift value) :=
  congrArg ofBool (ofBool_bool value).symm

/-- The two negations coincide. -/
theorem coincides_neg {element : V} {value : Bool} (counted : CountsAs element value) :
    Act.Coincides False IsTruth ((algebra : BoolAlgebra σ V).neg element)
      ((minimal : BoolAlgebra τ Bool).neg value) := by
  rw [neg_eq, minimal_neg, counted]
  exact .returned id rfl

/-- The two versions of a connective coincide. -/
theorem coincides_connective (connective : Connective) {left right : V} {first second : Bool}
    (countedLeft : CountsAs left first) (countedRight : CountsAs right second) :
    Act.Coincides False IsTruth ((algebra : BoolAlgebra σ V).connective connective left right)
      ((minimal : BoolAlgebra τ Bool).connective connective first second) := by
  rw [connective_eq, minimal_connective, countedLeft, countedRight]
  exact .returned id rfl

/-- Of an operation on a sequence only the equality of no elements has no meaning. -/
theorem eval_eq_none_iff (aggregate : Aggregate) (elements : List V) :
    aggregate.eval (values elements) = none ↔ aggregate = .allEqual ∧ elements = [] := by
  cases aggregate with
  | allEqual => cases elements <;> simp [values, Aggregate.eval]
  | _ => simp [Aggregate.eval]

/-- Two computations that return what something means, one of them as an element, and are refused where it has
no meaning. -/
theorem coincides_meaning {Refused : Prop} {meaning : Option Bool} {fault : Fault}
    (refusal : meaning = none ↔ Refused) (isValue : fault.category = .value) :
    Act.Coincides Refused IsTruth
      (match meaning with
        | some value => (pure (ofBool value) : Act σ V)
        | none => throw fault)
      (match meaning with
        | some value => (pure value : Act τ Bool)
        | none => throw fault) := by
  cases meaning with
  | some value => exact .returned (fun isRefused => nomatch refusal.2 isRefused) rfl
  | none => exact .refused (refusal.1 rfl) isValue

/-- The two versions of an aggregate coincide: both refuse to compare no elements at all, and nothing else.
-/
theorem coincides_aggregate (aggregate : Aggregate) {elements : List V} {truths : List Bool}
    (counted : List.Forall₂ CountsAs elements truths) :
    Act.Coincides (aggregate = .allEqual ∧ elements = []) IsTruth
      ((algebra : BoolAlgebra σ V).aggregate aggregate elements)
      ((minimal : BoolAlgebra τ Bool).aggregate aggregate truths) := by
  rw [aggregate_eq, minimal_aggregate, ← values_eq_of_counts counted]
  exact coincides_meaning (eval_eq_none_iff aggregate elements) rfl

/-- The two orders have a meaning for sequences of the same length only. -/
theorem compare_eq_none_iff (comparison : Comparison) (lefts rights : List V) :
    comparison.eval (values lefts) (values rights) = none ↔ lefts.length ≠ rights.length := by
  cases comparison with
  | lexLt => simp [Comparison.eval, length_values]
  | lexLe => simp [Comparison.eval, length_values, eq_comm]

/-- The two versions of a comparison coincide: both refuse sequences of different lengths, and nothing else.
-/
theorem coincides_compare (comparison : Comparison) (lefts rights : List V) :
    Act.Coincides (lefts.length ≠ rights.length) IsTruth
      ((algebra : BoolAlgebra σ V).compare comparison lefts rights)
      ((minimal : BoolAlgebra τ Bool).compare comparison (values lefts) (values rights)) := by
  have isValue : (comparison.lengthFault lefts.length rights.length).category = .value := by
    cases comparison <;> rfl
  rw [compare_eq, minimal_compare, length_values, length_values]
  exact coincides_meaning (compare_eq_none_iff comparison lefts rights) isValue

/-- The ordinary operations on truth values, each carried out in its own way, are the inherited ones.  This
also holds for elements that only count as true or false. -/
theorem overrides_minimal : Overrides (algebra : BoolAlgebra σ V) (minimal : BoolAlgebra τ Bool) where
  lift := fun element => isTruth_lift (TruthValued.truth element)
  neg := fun _ => coincides_neg rfl
  connective := fun connective _ _ => coincides_connective connective rfl rfl
  aggregate := fun aggregate elements => coincides_aggregate aggregate (counts_values elements)
  compare := coincides_compare
  negTensor := fun tensor => .mapM (fun _ _ => coincides_neg) (counts_tensor tensor)
  liftTensor := by
    intro tensor
    refine ⟨rfl, ?_⟩
    change List.Forall₂ IsTruth (tensor.toList.map _) ((tensor.toList.map _).map _)
    rw [List.map_map]
    exact forall₂_map_map fun element => isTruth_lift (TruthValued.truth element)
  connectiveTensor := by
    intro connective left right
    refine Act.Coincides.map2 ?_ (counts_tensor left) (counts_tensor right)
    exact fun _ _ _ _ counted further => coincides_connective connective counted further
  foldTensor := fun aggregate tensor count =>
    .fold (fun _ _ => coincides_aggregate aggregate) _ (counts_tensor tensor)

/-- Exactly one of an absent value, a number and an empty text counts as true. -/
example : (algebra : BoolAlgebra Journal Datum).one [.null, .int 3, .str ""] = pure (.bool true) := rfl

end Truth

end TensorLogic
