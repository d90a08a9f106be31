/-
Module: TensorLogic.Proofs.Tensor.Related
Purpose: Tensors of one shape with related elements, and how operations treat them alike.
Main exports: Tensor.Related, Tensor.Related.exists_pairs, Tensor.Related.reshape,
  Bridge.Corresponds.mapM, Bridge.Corresponds.map2, Bridge.Corresponds.fold
-/
import TensorLogic.Proofs.Effect.Correspondence
import TensorLogic.Proofs.Tensor.Natural

namespace TensorLogic

variable {σ τ α β γ δ ε ζ : Type}

/-- Elements of two sides together with the proof that they are related. -/
abbrev Paired (Relation : α → β → Prop) := { pair : α × β // Relation pair.1 pair.2 }

/-- The element of the left side. -/
def Paired.left {Relation : α → β → Prop} (pair : Paired Relation) : α := pair.1.1

/-- The element of the right side. -/
def Paired.right {Relation : α → β → Prop} (pair : Paired Relation) : β := pair.1.2

theorem exists_paired {Relation : α → β → Prop} {lefts : List α} {rights : List β}
    (related : List.Forall₂ Relation lefts rights) :
    ∃ pairs : List (Paired Relation),
      pairs.map Paired.left = lefts ∧ pairs.map Paired.right = rights := by
  induction related with
  | nil => exact ⟨[], rfl, rfl⟩
  | cons head _ hypothesis =>
      obtain ⟨pairs, areLefts, areRights⟩ := hypothesis
      refine ⟨⟨(_, _), head⟩ :: pairs, ?_, ?_⟩
      · rw [List.map_cons, areLefts]
        rfl
      · rw [List.map_cons, areRights]
        rfl

theorem forall₂_map_map {Relation : β → γ → Prop} {function : α → β} {other : α → γ}
    {members : List α} (related : ∀ member, Relation (function member) (other member)) :
    List.Forall₂ Relation (members.map function) (members.map other) := by
  rw [List.forall₂_map_left_iff, List.forall₂_map_right_iff, List.forall₂_same]
  exact fun member _ => related member

namespace Tensor

/-- Two tensors have one shape, and their elements at the same place are related. -/
structure Related (Relation : α → β → Prop) (left : Tensor α) (right : Tensor β) : Prop where
  shape_eq : left.shape = right.shape
  elements : List.Forall₂ Relation left.toList right.toList

namespace Related

variable {Relation : α → β → Prop} {left : Tensor α} {right : Tensor β}

theorem of_map {function : γ → α} {other : γ → β} (tensor : Tensor γ)
    (related : ∀ element, Relation (function element) (other element)) :
    Related Relation (tensor.map function) (tensor.map other) where
  shape_eq := rfl
  elements := forall₂_map_map related

theorem exists_pairs (related : Related Relation left right) :
    ∃ pairs : Tensor (Paired Relation),
      pairs.map Paired.left = left ∧ pairs.map Paired.right = right := by
  obtain ⟨pairs, areLefts, areRights⟩ := exists_paired related.elements
  have counted : pairs.length = left.shape.size := by
    rw [← length_toList, ← areLefts, List.length_map]
  refine ⟨ofList left.shape pairs counted, ?_, ?_⟩
  · exact ext_toList rfl areLefts
  · exact ext_toList related.shape_eq areRights

theorem mono {Weaker : α → β → Prop} (related : Related Relation left right)
    (weaker : ∀ first second, Relation first second → Weaker first second) :
    Related Weaker left right :=
  ⟨related.shape_eq, related.elements.imp weaker⟩

theorem ofElems {lefts : List α} {rights : List β} (shape : Shape)
    (related : List.Forall₂ Relation lefts rights) :
    SameOutcome (Related Relation) (Tensor.ofElems shape lefts) (Tensor.ofElems shape rights) := by
  obtain ⟨pairs, rfl, rfl⟩ := exists_paired related
  rw [ofElems_map, ofElems_map]
  exact .of_map _ fun tensor => of_map tensor Subtype.property

theorem constant {first : α} {second : β} (shape : Shape) (related : Relation first second) :
    Related Relation (Tensor.constant shape first) (Tensor.constant shape second) := by
  have mapped := of_map (Tensor.constant shape (⟨(first, second), related⟩ : Paired Relation))
    Subtype.property
  rw [map_constant, map_constant] at mapped
  exact mapped

theorem lookup (related : Related Relation left right) (index : List Datum) :
    SameOutcome Relation (left.lookup index) (right.lookup index) := by
  obtain ⟨pairs, rfl, rfl⟩ := related.exists_pairs
  rw [lookup_map, lookup_map]
  exact .of_map _ Subtype.property

theorem item (related : Related Relation left right) :
    SameOutcome Relation left.item right.item := by
  obtain ⟨pairs, rfl, rfl⟩ := related.exists_pairs
  rw [item_map, item_map]
  exact .of_map _ Subtype.property

theorem reshape [Platform] (related : Related Relation left right) (dimensions axes : List Whole) :
    SameOutcome (Related Relation) (left.reshape dimensions axes)
      (right.reshape dimensions axes) := by
  obtain ⟨pairs, rfl, rfl⟩ := related.exists_pairs
  rw [reshape_map, reshape_map]
  exact .of_map _ fun tensor => of_map tensor Subtype.property

theorem reshapeOfData [Platform] (related : Related Relation left right) (shape axes : Datum) :
    SameOutcome (Related Relation) (left.reshapeOfData shape axes)
      (right.reshapeOfData shape axes) := by
  obtain ⟨pairs, rfl, rfl⟩ := related.exists_pairs
  rw [reshapeOfData_map, reshapeOfData_map]
  exact .of_map _ fun tensor => of_map tensor Subtype.property

theorem isKept (related : Related Relation left right) (shape axes : Datum) :
    left.isKept shape axes = right.isKept shape axes := by
  obtain ⟨pairs, rfl, rfl⟩ := related.exists_pairs
  rw [isKept_map, isKept_map]

theorem diagonalOfData [Platform] (related : Related Relation left right) {default : α} {other : β}
    (relatedDefault : Relation default other) (axes : Datum) :
    SameOutcome (Related Relation) (left.diagonalOfData axes default)
      (right.diagonalOfData axes other) := by
  obtain ⟨pairs, rfl, rfl⟩ := related.exists_pairs
  have isLeft : Paired.left (⟨(default, other), relatedDefault⟩ : Paired Relation) = default := rfl
  have isRight : Paired.right (⟨(default, other), relatedDefault⟩ : Paired Relation) = other := rfl
  rw [diagonalOfData_map _ _ _ isLeft, diagonalOfData_map _ _ _ isRight]
  exact .of_map _ fun tensor => of_map tensor Subtype.property

theorem unstack (related : Related Relation left right) :
    SameOutcome (List.Forall₂ (Related Relation)) left.unstack right.unstack := by
  obtain ⟨pairs, rfl, rfl⟩ := related.exists_pairs
  rw [unstack_map, unstack_map]
  exact .of_map _ fun tensors => forall₂_map_map fun tensor => of_map tensor Subtype.property

theorem concat {other : Tensor α} {otherRight : Tensor β} (related : Related Relation left right)
    (relatedOther : Related Relation other otherRight) :
    SameOutcome (Related Relation) (left.concat other) (right.concat otherRight) := by
  obtain ⟨pairs, rfl, rfl⟩ := related.exists_pairs
  obtain ⟨others, rfl, rfl⟩ := relatedOther.exists_pairs
  rw [concat_map, concat_map]
  exact .of_map _ fun tensor => of_map tensor Subtype.property

theorem slices (related : Related Relation left right) (count : Nat) :
    List.Forall₂ (List.Forall₂ Relation) (left.slices count) (right.slices count) := by
  obtain ⟨pairs, rfl, rfl⟩ := related.exists_pairs
  rw [slices_map, slices_map]
  exact forall₂_map_map fun piece => forall₂_map_map Subtype.property

/-- Related tensors, one after the other, are two sides of tensors of pairs. -/
theorem exists_pairs_list {lefts : List (Tensor α)} {rights : List (Tensor β)}
    (related : List.Forall₂ (Related Relation) lefts rights) :
    ∃ pairs : List (Tensor (Paired Relation)),
      pairs.map (map Paired.left) = lefts ∧ pairs.map (map Paired.right) = rights := by
  induction related with
  | nil => exact ⟨[], rfl, rfl⟩
  | cons head _ hypothesis =>
      obtain ⟨pairs, rfl, rfl⟩ := hypothesis
      obtain ⟨pair, rfl, rfl⟩ := head.exists_pairs
      exact ⟨pair :: pairs, rfl, rfl⟩

/-- Stacking related tensors has the same outcome, in related tensors. -/
theorem stack {lefts : List (Tensor α)} {rights : List (Tensor β)}
    (related : List.Forall₂ (Related Relation) lefts rights) (dimensions : List Whole) :
    SameOutcome (Related Relation) (Tensor.stack lefts (some dimensions))
      (Tensor.stack rights (some dimensions)) := by
  obtain ⟨pairs, rfl, rfl⟩ := exists_pairs_list related
  rw [stack_map, stack_map]
  exact .of_map _ fun tensor => of_map tensor Subtype.property

/-- What is given is read as tensors one by one, with the same outcomes. -/
theorem stackWith {read : γ → Except Fault (Tensor α)} {readRight : δ → Except Fault (Tensor β)}
    {lefts : List γ} {rights : List δ}
    (related : List.Forall₂ (fun given other =>
      SameOutcome (Related Relation) (read given) (readRight other)) lefts rights)
    (dimensions : Option (List Whole)) :
    SameOutcome (Related Relation) (Tensor.stackWith read lefts dimensions)
      (Tensor.stackWith readRight rights dimensions) := by
  have sameShape : SameOutcome Eq (stackShape read lefts dimensions)
      (stackShape readRight rights dimensions) := by
    cases dimensions with
    | some dimensions => exact .refl _ fun _ => rfl
    | none =>
        cases related with
        | nil => exact .error _
        | cons head _ => exact head.bind fun first second alike => .ok alike.shape_eq
  refine sameShape.bind fun shape other same => ?_
  subst same
  refine (SameOutcome.mapM related fun given other alike => ?_).bind
    fun firsts seconds tensors => stack tensors _
  refine alike.bind fun first second tensors => ?_
  rw [tensors.shape_eq]
  split
  · exact .ok tensors
  · exact .error _

end Related

end Tensor

namespace Bridge.Corresponds

variable {bridge : Bridge σ τ} {states : σ × τ} {Element : σ × τ → α → β → Prop}
  {Other : σ × τ → γ → δ → Prop} {Result : σ × τ → ε → ζ → Prop}

/-- Mapping related tensors corresponds where the function does on related elements. -/
theorem mapM {function : α → Act σ γ} {other : β → Act τ δ} (stable : bridge.Stable Element)
    (stableResult : bridge.Stable Other)
    (each : ∀ states first second, Element states first second →
      bridge.Corresponds states (function first) (other second) Other)
    {left : Tensor α} {right : Tensor β} (related : Tensor.Related (Element states) left right) :
    bridge.Corresponds states (left.mapM function) (right.mapM other)
      fun states => Tensor.Related (Other states) := by
  refine (visit stable stableResult each related.elements).bind
    fun middle results others _ _ found => ?_
  exact pure ⟨related.shape_eq, found⟩

/-- Going through two pairs of related tensors corresponds; they have the same shapes, and are refused
alike. -/
theorem map2 {function : α → γ → Act σ ε} {other : β → δ → Act τ ζ}
    (stable : bridge.Stable Element) (stableOther : bridge.Stable Other)
    (stableResult : bridge.Stable Result)
    (each : ∀ states first second third fourth, Element states first second →
      Other states third fourth →
        bridge.Corresponds states (function first third) (other second fourth) Result)
    {left : Tensor α} {right : Tensor β} {leftOther : Tensor γ} {rightOther : Tensor δ}
    (related : Tensor.Related (Element states) left right)
    (relatedOther : Tensor.Related (Other states) leftOther rightOther) :
    bridge.Corresponds states (left.map2 function leftOther) (right.map2 other rightOther)
      fun states => Tensor.Related (Result states) := by
  unfold Tensor.map2
  by_cases agree : Shape.Agree left.shape leftOther.shape
  · have agreeRight : Shape.Agree right.shape rightOther.shape := by
      rw [← related.shape_eq, ← relatedOther.shape_eq]
      exact agree
    rw [dif_pos agree, dif_pos agreeRight]
    refine (visit2 stable stableOther stableResult each related.elements relatedOther.elements _
      _).bind fun middle results others _ _ found => ?_
    exact pure ⟨related.shape_eq, found⟩
  · have differ : ¬Shape.Agree right.shape rightOther.shape := by
      rw [← related.shape_eq, ← relatedOther.shape_eq]
      exact agree
    rw [dif_neg agree, dif_neg differ, related.shape_eq, relatedOther.shape_eq]
    exact throw _

/-- Folding related tensors corresponds where the function does on related lists. -/
theorem fold {function : List α → Act σ γ} {other : List β → Act τ δ}
    (stable : bridge.Stable Element) (stableResult : bridge.Stable Other)
    (each : ∀ states lefts rights, List.Forall₂ (Element states) lefts rights →
      bridge.Corresponds states (function lefts) (other rights) Other)
    (count : Whole) {left : Tensor α} {right : Tensor β}
    (related : Tensor.Related (Element states) left right) :
    bridge.Corresponds states (left.fold function count) (right.fold other count)
      fun states => Tensor.Related (Other states) := by
  have sameOrder : left.order = right.order := by
    rw [Tensor.order, Tensor.order, related.shape_eq]
  unfold Tensor.fold
  rw [sameOrder]
  by_cases inside : 0 ≤ count.value ∧ count.value ≤ right.order
  · rw [if_pos inside, if_pos inside]
    refine (visit stable.list stableResult each (related.slices count.value.toNat)).bind
      fun middle results others _ _ found => ?_
    refine pure ⟨?_, found⟩
    change left.shape.drop _ = right.shape.drop _
    rw [related.shape_eq]
  · rw [if_neg inside, if_neg inside]
    exact throw _

end Bridge.Corresponds

end TensorLogic
