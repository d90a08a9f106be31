/-
Module: TensorLogic.Proofs.Contraction.Calls
Purpose: The calls that a step of a contraction makes, assignment by assignment.
Main exports: Contraction.productCalls, Contraction.sumCalls, Contraction.Entry.Proper.records_join,
  Contraction.Entry.Proper.records_eliminate
-/
import TensorLogic.Proofs.Contraction.Recorded

namespace TensorLogic

/-! ## Elements by assignments -/

@[simp]
theorem Tensor.map_id {α : Type} (tensor : Tensor α) : tensor.map id = tensor :=
  ext_toList rfl (List.map_id _)

/-- A tensor lists its elements at all indices, in storage order. -/
theorem Tensor.toList_eq_elements {α : Type} (default : α) (tensor : Tensor α) :
    tensor.toList = tensor.shape.indices.map (tensor.element default) := by
  apply List.ext_getElem?
  intro place
  by_cases bound : place < tensor.shape.size
  · have stored := tensor.getElem?_eq_element default (Shape.within_index bound)
    rw [Shape.position_index bound] at stored
    rw [stored]
    simp [Shape.indices, bound]
  · simp [Shape.indices, bound]

/-- The pieces of the storage of a tensor list the elements along its first axes. -/
theorem Tensor.slices_eq_elements {α : Type} (default : α) {tensor : Tensor α} {lead rest : Shape}
    (isShape : tensor.shape = lead ++ rest) :
    tensor.slices lead.length = rest.indices.map fun index =>
      lead.indices.map fun first => tensor.element default (first ++ index) := by
  have leading : tensor.shape.take lead.length = lead := by rw [isShape, List.take_left]
  have trailing : tensor.shape.drop lead.length = rest := by rw [isShape, List.drop_left]
  rw [slices, leading, trailing]
  change _ = ((List.range rest.size).map rest.index).map _
  rw [List.map_map]
  apply List.map_congr_left
  intro place inside
  have bound := List.mem_range.1 inside
  have slice := tensor.slice_eq default isShape (Shape.within_index bound)
  rwa [Shape.position_index bound] at slice

namespace Contraction

variable {σ V L K : Type} {used : L → Prop} {key : L → K} {dim : K → Nat} (default : V)

/-- The assignment that calls start from: only the keys that are assigned coordinates matter. -/
def origin : K → Nat := fun _ => 0

variable [DecidableEq K]

/-- The elements of an entry are those at all assignments of coordinates to its labels. -/
theorem Entry.Proper.toList_eq {entry : Entry V L} (proper : entry.Proper used key dim) :
    entry.tensor.toList =
      (assignments dim (entry.keys key) origin).map (entry.read default key) := by
  rw [entry.tensor.toList_eq_elements default,
    indices_eq_assignments origin proper.different proper.isShape, List.map_map]
  rfl

/-- Each piece of the storage of an entry belongs to an assignment of coordinates to the last labels, and
lists the elements at all assignments of coordinates to the first ones. -/
theorem Entry.Proper.slices_eq {gone kept : List L} {tensor : Tensor V}
    (proper : Entry.Proper used key dim ⟨tensor, gone ++ kept⟩) :
    tensor.slices gone.length = (assignments dim (kept.map key) origin).map fun place =>
      (assignments dim (gone.map key) place).map (Entry.read default key ⟨tensor, gone ++ kept⟩) := by
  obtain ⟨lead, rest, isShape, sameLength⟩ := proper.exists_lead
  rw [← sameLength, Tensor.slices_eq_elements default isShape,
    indices_eq_assignments origin proper.different_kept (proper.values_append isShape sameLength).2,
    List.map_map]
  apply List.map_congr_left
  intro place _
  exact proper.elements_lead default isShape sameLength place

/-! ## The calls of the steps -/

/-- The calls for a product: one for each assignment of coordinates to its labels. -/
def productCalls (key : L → K) (dim : K → Nat) (left right joined : Entry V L) : List (Invocation V) :=
  (assignments dim (joined.keys key) origin).map fun place =>
    .product (left.read default key place) (right.read default key place)

/-- The keys of an entry that are gone once it is reduced. -/
def eliminated (key : L → K) (joined reduced : Entry V L) : List K :=
  (joined.keys key).filter fun own => decide (own ∉ reduced.keys key)

/-- The calls for an elimination: none if no label is gone, and otherwise one for each assignment of
coordinates to the labels that are left, with the elements at all assignments of coordinates to the labels
that are gone. -/
def sumCalls (key : L → K) (dim : K → Nat) (joined reduced : Entry V L) : List (Invocation V) :=
  if (eliminated key joined reduced).isEmpty then []
  else (assignments dim (reduced.keys key) origin).map fun place =>
    .sum ((assignments dim (eliminated key joined reduced) place).map (joined.read default key))

theorem Entry.image_id (entry : Entry V L) : entry.image id = entry := by
  rw [image, Tensor.map_id]

/-- What is provided with room is what comes out, if anything does. -/
theorem Provided.eq_of_ok [Platform] {α : Type} {room : Prop} {value result : α} {outcome : Except Fault α}
    (provided : Provided room value outcome) (isResult : outcome = .ok result) : result = value := by
  cases provided with
  | given => exact (Except.ok.inj isResult).symm
  | crowded => cases isResult

variable [AxisLabel L] (tells : Tells key used) {order : List L} {state after : σ}

include tells

namespace Entry.Proper

/-- An entry that is brought into the order of the labels has the same labels, and the same elements. -/
theorem of_arrange [Platform] (usesOrder : ∀ label ∈ order, used label)
    (differentOrder : (order.map key).Nodup) {entry arranged : Entry V L} (proper : entry.Proper used key dim)
    (known : ∀ own ∈ entry.keys key, own ∈ order.map key)
    (isArranged : arrange order entry = .ok arranged) :
    arranged.Proper used key dim ∧ (∀ own, own ∈ arranged.keys key ↔ own ∈ entry.keys key) ∧
      ∀ place, Keeps dim (arranged.keys key) place →
        arranged.read default key place = entry.read default key place := by
  obtain ⟨result, provides, properResult, _, areKeys, elements⟩ :=
    proper.exists_arrange tells default id usesOrder differentOrder known
  rw [image_id, image_id] at provides
  obtain rfl := provides.eq_of_ok isArranged
  refine ⟨properResult, fun own => ?_, elements⟩
  rw [areKeys, List.mem_filter, decide_eq_true_iff]
  exact ⟨And.right, fun inside => ⟨known own inside, inside⟩⟩

/-- A product that succeeds calls the product once for each assignment of coordinates to the labels of both
entries, with the elements that they have there. -/
theorem records_join [Platform] (usesOrder : ∀ label ∈ order, used label)
    (differentOrder : (order.map key).Nodup) {product : V → V → Act σ V} {left right joined : Entry V L}
    (properLeft : left.Proper used key dim) (properRight : right.Proper used key dim)
    (knownLeft : ∀ own ∈ left.keys key, own ∈ order.map key)
    (knownRight : ∀ own ∈ right.keys key, own ∈ order.map key)
    (ran : (join order product left right).runOn state = (.ok joined, after)) :
    joined.Proper used key dim ∧
      (∀ own, own ∈ joined.keys key ↔ own ∈ left.keys key ++ right.keys key) ∧
      Records (productCalls default key dim left right joined)
        (join order (recordedProduct product) left right) state joined after := by
  obtain ⟨dimensions, first, second, found, spreadsLeft, spreadsRight, areLabels, isShape, records⟩ :=
    Contraction.records_join ran
  obtain ⟨uses, _, different, same⟩ :=
    properLeft.labels_joined tells properRight usesOrder differentOrder knownLeft knownRight
  rw [← areLabels] at uses different same
  obtain ⟨others, one, other, foundOthers, providesOne, providesOther, properFirst, properSecond, _,
    elements⟩ := properLeft.exists_broadcast tells default id properRight uses different same
  rw [image_id, image_id, found, Except.ok.injEq] at foundOthers
  subst foundOthers
  rw [image_id, Tensor.map_id] at providesOne providesOther
  obtain rfl := providesOne.eq_of_ok spreadsLeft
  obtain rfl := providesOther.eq_of_ok spreadsRight
  have calls : List.zipWith Invocation.product first.toList second.toList =
      productCalls default key dim left right joined := by
    have areFirst : first.toList = (assignments dim (joined.keys key) origin).map
        (Entry.read default key ⟨first, joined.labels⟩) := properFirst.toList_eq default
    have areSecond : second.toList = (assignments dim (joined.keys key) origin).map
        (Entry.read default key ⟨second, joined.labels⟩) := properSecond.toList_eq default
    rw [areFirst, areSecond, List.zipWith_map, List.zipWith_self]
    apply List.map_congr_left
    intro place inside
    obtain ⟨isLeft, isRight⟩ := elements place ((mem_assignments different).1 inside).1
    rw [isLeft, isRight]
  rw [← calls]
  exact ⟨⟨uses, different, (congrArg Shape.values isShape).trans properFirst.isShape⟩, same, records⟩

/-- An elimination that succeeds calls the sum once for each assignment of coordinates to the labels that
are kept, with the elements at all assignments of coordinates to the labels that are gone.  Where no label
is gone, it calls nothing. -/
theorem records_eliminate [Platform] {sum : List V → Act σ V} {needed : List L}
    (usesNeeded : ∀ label ∈ needed, used label) {entry reduced : Entry V L}
    (proper : entry.Proper used key dim)
    (ran : (eliminate sum needed entry).runOn state = (.ok reduced, after)) :
    reduced.Proper used key dim ∧
      (∀ own, own ∈ reduced.keys key ↔ own ∈ entry.keys key ∧ own ∈ needed.map key) ∧
      Records (sumCalls default key dim entry reduced) (eliminate (recordedSum sum) needed entry) state
        reduced after := by
  have kept : ∀ own, own ∈ (entry.kept needed).map key ↔
      own ∈ entry.keys key ∧ own ∈ needed.map key := by
    intro own
    rw [proper.keys_kept tells usesNeeded, List.mem_filter, decide_eq_true_iff]
  have isGone (areKeys : reduced.keys key = (entry.kept needed).map key) :
      eliminated key entry reduced = (entry.gone needed).map key := by
    rw [proper.keys_gone tells usesNeeded]
    apply List.filter_congr
    intro own inside
    simp only [areKeys, kept, inside, true_and]
  rcases Contraction.records_eliminate ran with ⟨none, rfl, records⟩ |
    ⟨some, areLabels, dimensions, tensor, found, spreads, isShape, records⟩
  · rw [kept_of_gone_nil none] at kept isGone
    have noCalls : sumCalls default key dim reduced reduced = [] := by
      rw [sumCalls, isGone rfl, none]
      rfl
    rw [noCalls]
    exact ⟨proper, kept, records⟩
  · obtain ⟨others, sorted, foundOthers, provides, properSorted, _, elements⟩ :=
      proper.exists_sorted tells default id needed
    rw [image_id, found, Except.ok.injEq] at foundOthers
    subst foundOthers
    rw [image_id, Tensor.map_id] at provides
    obtain rfl := provides.eq_of_ok spreads
    have areKeys : reduced.keys key = (entry.kept needed).map key := by rw [keys, areLabels]
    have calls : (tensor.slices (entry.gone needed).length).map Invocation.sum =
        sumCalls default key dim entry reduced := by
      rw [properSorted.slices_eq default, List.map_map, sumCalls, isGone areKeys, areKeys,
        if_neg (by simpa using some)]
      apply List.map_congr_left
      intro place inside
      apply congrArg Invocation.sum
      apply List.map_congr_left
      intro other among
      have keeps : Keeps dim ((entry.kept needed).map key) place :=
        ((mem_assignments properSorted.different_kept).1 inside).1
      apply elements
      rw [List.map_append]
      exact keeps.extend properSorted.different_gone among
    rw [← calls]
    refine ⟨⟨?_, ?_, ?_⟩, by rwa [areKeys], records⟩
    · rw [areLabels]
      exact fun label inside => proper.uses label (List.mem_filter.1 inside).1
    · rw [areKeys]
      exact properSorted.different_kept
    · obtain ⟨lead, rest, isSorted, sameLength⟩ := properSorted.exists_lead
      rw [isShape, areKeys, isSorted, ← sameLength, List.drop_left]
      exact (properSorted.values_append isSorted sameLength).2

end Entry.Proper

end Contraction

end TensorLogic
