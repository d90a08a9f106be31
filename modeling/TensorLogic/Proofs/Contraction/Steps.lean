/-
Module: TensorLogic.Proofs.Contraction.Steps
Purpose: What arranging, joining and eliminating do to the elements of entries.
Main exports: Contraction.Computes, Contraction.Entry.Proper.exists_arrange,
  Contraction.Entry.Proper.runOn_join, Contraction.Entry.Proper.runOn_eliminate
-/
import TensorLogic.Contraction.Result
import TensorLogic.Proofs.Contraction.Assignment
import TensorLogic.Proofs.Contraction.Spread

namespace TensorLogic.Contraction

variable {σ V M L K : Type}

/-- The operations of a contraction compute the sum and the product of an arithmetic, whose elements are
embedded among those of the tensors. -/
structure Computes (arithmetic : Arithmetic M) (embed : M → V) (sum : List V → Act σ V)
    (product : V → V → Act σ V) : Prop where
  sum : ∀ members state,
    (sum (members.map embed)).runOn state = (.ok (embed (arithmetic.total members)), state)
  product : ∀ first second state, (product (embed first) (embed second)).runOn state =
    (.ok (embed (arithmetic.times first second)), state)

/-- An entry whose elements are embedded. -/
def Entry.image (embed : M → V) (entry : Entry M L) : Entry V L :=
  ⟨entry.tensor.map embed, entry.labels⟩

/-- The labels of an entry fit the image of its tensor as they fit the tensor. -/
theorem Entry.Proper.image {used : L → Prop} {key : L → K} {dim : K → Nat} {entry : Entry M L}
    (proper : entry.Proper used key dim) (embed : M → V) : (entry.image embed).Proper used key dim :=
  ⟨proper.uses, proper.different, proper.isShape⟩

/-- The labels of an entry that are needed. -/
def Entry.kept [AxisLabel L] (needed : List L) (entry : Entry M L) : List L :=
  entry.labels.filter needed.elem

/-- The labels of an entry that are not needed. -/
def Entry.gone [AxisLabel L] (needed : List L) (entry : Entry M L) : List L :=
  entry.labels.filter fun label => !needed.elem label

section

variable [AxisLabel L]

/-- An entry may be mapped before it is spread or after. -/
theorem spread_image [Platform] (embed : M → V) (entry : Entry M L) (labels : List L)
    (dimensions : Dimensions L) :
    spread (entry.image embed) labels dimensions =
      (spread entry labels dimensions).map (Tensor.map embed) :=
  Tensor.reshape_map embed entry.tensor _ _

/-- Only the dimensions of the labels that are spread onto matter. -/
theorem spread_congr [Platform] {entry : Entry M L} {labels : List L} {dimensions others : Dimensions L}
    (same : ∀ label ∈ labels, dimensionOf dimensions label = dimensionOf others label) :
    spread entry labels dimensions = spread entry labels others := by
  have shapes : (labels.map fun label => (dimensionOf dimensions label).toWhole) =
      labels.map fun label => (dimensionOf others label).toWhole :=
    List.map_congr_left fun label inside => by rw [same label inside]
  rw [spread, spread, shapes]

/-- Where no label is gone, all are kept. -/
theorem Entry.kept_of_gone_nil {entry : Entry V L} {needed : List L} (none : entry.gone needed = []) :
    entry.kept needed = entry.labels := by
  apply List.filter_eq_self.2
  intro label inside
  have absent := List.filter_eq_nil_iff.1 none label inside
  simpa using absent

/-- The labels that are not needed are summed over. -/
theorem eliminate_eq [Platform] (sum : List V → Act σ V) (needed : List L) (entry : Entry V L) :
    eliminate sum needed entry =
      if (entry.gone needed).isEmpty then pure entry
      else (do
        let tensor ← spread entry (entry.gone needed ++ entry.kept needed) (← dimensionsOf [entry])
        pure ⟨← tensor.fold sum (.number (entry.gone needed).length), entry.kept needed⟩) := by
  unfold eliminate
  rw [List.partition_eq_filter_filter]
  rfl

/-- Labels that have the dimensions they are listed with give their outline back. -/
theorem spanning_labels {dimensions outline : Dimensions L}
    (faithful : ∀ pair ∈ outline, dimensionOf dimensions pair.1 = pair.2) :
    dimensions.spanning outline.labels = outline := by
  rw [Dimensions.spanning, Dimensions.labels, List.map_map]
  have same : ∀ pair ∈ outline, (pair.1, dimensionOf dimensions pair.1) = pair := fun pair inside =>
    Prod.ext rfl (faithful pair inside)
  exact (List.map_congr_left same).trans (List.map_id outline)

/-- Of an outline the labels stay that are needed, in their order. -/
theorem labels_kept (needed : List L) (outline : Dimensions L) :
    (outline.kept needed).labels = outline.labels.filter needed.elem := by
  rw [Dimensions.labels, Dimensions.labels, List.filter_map]
  rfl

/-- Of an outline the labels go that are not needed, in their order. -/
theorem labels_gone (needed : List L) (outline : Dimensions L) :
    (outline.gone needed).labels = outline.labels.filter fun label => !needed.elem label := by
  rw [Dimensions.labels, Dimensions.labels, List.filter_map]
  rfl

omit [AxisLabel L] in
/-- An entry with the labels and the shape of an outline has that outline. -/
theorem outline_eq {entry : Entry V L} {outline : Dimensions L}
    (sameLabels : entry.labels = outline.labels) (sameShape : entry.tensor.shape = outline.shape) :
    entry.outline = outline := by
  rw [Entry.outline, sameLabels, sameShape, Dimensions.labels, Dimensions.shape, List.zip_map']
  exact List.map_id outline

end

section

variable [AxisLabel L] [DecidableEq K] {used : L → Prop} {key : L → K} {dim : K → Nat}
  (tells : Tells key used) (arithmetic : Arithmetic M) (default : M) {embed : M → V}
  {sum : List V → Act σ V} {product : V → V → Act σ V} {order : List L}

include tells

namespace Entry.Proper

omit [DecidableEq K] in
/-- Among its own dimensions, a label of an entry has the one that it is used with. -/
theorem dimensionOf_outline {entry : Entry M L} (proper : entry.Proper used key dim) {pair : L × Count}
    (inside : pair ∈ entry.outline) {label : L} (usesLabel : used label)
    (same : key label = key pair.1) : dimensionOf entry.outline label = pair.2 := by
  apply dimensionOf_of_mem tells proper.sized _ inside usesLabel same
  rw [proper.keys_outline]
  exact proper.different

omit [DecidableEq K] in
/-- There is always room to leave an entry as it is. -/
theorem room_self [Platform] {entry : Entry M L} (proper : entry.Proper used key dim) {outline : Dimensions L}
    (same : outline.labels = entry.labels) : Room Shape.PassesSpread entry.outline outline := by
  apply Or.inl
  rw [same, proper.labels_outline]
  exact (beq_iff_keys tells proper.uses proper.uses).2 rfl

variable (embed) in
/-- An entry can be spread over its own labels in another order, provided that there is room. -/
theorem exists_rearranged [Platform] {entry : Entry M L} (proper : entry.Proper used key dim)
    {labels : List L} (uses : ∀ label ∈ labels, used label) (different : (labels.map key).Nodup)
    (same : ∀ own, own ∈ labels.map key ↔ own ∈ entry.keys key) :
    ∃ (dimensions : Dimensions L) (tensor : Tensor M),
      dimensionsOf [entry.image embed] = .ok dimensions ∧
      Provided (Room Shape.PassesSpread entry.outline (entry.outline.spanning labels)) (tensor.map embed)
        (spread (entry.image embed) labels dimensions) ∧
      Entry.Proper used key dim ⟨tensor, labels⟩ ∧
      tensor.shape = (entry.outline.spanning labels).shape ∧
      ∀ place, Keeps dim (labels.map key) place →
        Entry.read default key ⟨tensor, labels⟩ place = entry.read default key place := by
  have isOutline : ([entry].flatMap fun entry => entry.labels.zip entry.tensor.shape) = entry.outline :=
    List.append_nil _
  obtain ⟨dimensions, found, looked⟩ := exists_dimensionsOf tells (isOutline ▸ proper.sized)
  have sized : ∀ label ∈ labels, (dimensionOf entry.outline label).value = dim (key label) := by
    intro label inside
    apply value_dimensionOf tells proper.sized (uses label inside)
    rw [proper.keys_outline, ← same]
    exact List.mem_map_of_mem inside
  obtain ⟨tensor, spreads, properResult, faithful, elements⟩ := proper.exists_spread tells
    default uses different (fun own inside => (same own).2 inside) sized
  refine ⟨dimensions, tensor, found, ?_, properResult, ?_, elements⟩
  · have alike : spread entry labels dimensions = spread entry labels entry.outline := by
      apply spread_congr
      intro label inside
      rw [looked label (uses label inside), isOutline]
    rw [spread_image, alike]
    exact spreads.map _
  · apply faithful
    intro pair among label inside isKey
    exact proper.dimensionOf_outline tells among (uses label inside) isKey

variable (embed) in
/-- An entry can be brought into the order of the labels, provided that there is room. -/
theorem exists_arrange [Platform] (usesOrder : ∀ label ∈ order, used label)
    (differentOrder : (order.map key).Nodup) {entry : Entry M L} (proper : entry.Proper used key dim)
    (known : ∀ own ∈ entry.keys key, own ∈ order.map key) :
    ∃ result : Entry M L,
      Provided (Room Shape.PassesSpread entry.outline (entry.outline.arranged order)) (result.image embed)
        (arrange order (entry.image embed)) ∧
      result.Proper used key dim ∧ result.outline = entry.outline.arranged order ∧
      result.keys key = (order.map key).filter (fun other => decide (other ∈ entry.keys key)) ∧
      ∀ place, Keeps dim (result.keys key) place →
        result.read default key place = entry.read default key place := by
  have usesArranged : ∀ label ∈ ordered order entry.labels, used label := fun label inside =>
    usesOrder label (List.mem_filter.1 inside).1
  have isArranged : (ordered order entry.labels).map key =
      (order.map key).filter fun other => decide (other ∈ entry.keys key) :=
    keys_ordered tells usesOrder proper.uses
  by_cases already : (ordered order entry.labels == entry.labels) = true
  · have isOutline : entry.outline.arranged order = entry.outline := by
      rw [Dimensions.arranged, proper.labels_outline, if_pos already]
    have isSame : arrange order (entry.image embed) = .ok (entry.image embed) := if_pos already
    refine ⟨entry, ?_, proper, isOutline.symm, ?_, fun _ _ => rfl⟩
    · rw [isOutline, isSame]
      exact .given (proper.room_self tells proper.labels_outline)
    · rw [← isArranged]
      exact ((beq_iff_keys tells usesArranged proper.uses).1 already).symm
  · have same : ∀ own, own ∈ (ordered order entry.labels).map key ↔ own ∈ entry.keys key := by
      intro own
      rw [isArranged, List.mem_filter, decide_eq_true_iff]
      exact ⟨And.right, fun inside => ⟨known own inside, inside⟩⟩
    have different : ((ordered order entry.labels).map key).Nodup := by
      rw [isArranged]
      exact differentOrder.filter _
    have isOutline : entry.outline.arranged order =
        entry.outline.spanning (ordered order entry.labels) := by
      rw [Dimensions.arranged, proper.labels_outline, if_neg already]
    obtain ⟨dimensions, tensor, found, spreads, properResult, isShape, elements⟩ :=
      proper.exists_rearranged tells default embed usesArranged different same
    refine ⟨⟨tensor, ordered order entry.labels⟩, ?_, properResult, ?_, isArranged, elements⟩
    · have moved : ¬(ordered order (entry.image embed).labels == (entry.image embed).labels) = true :=
        already
      unfold arrange
      rw [if_neg moved, found, isOutline]
      exact spreads.map fun tensor => (⟨tensor, ordered order entry.labels⟩ : Entry V L)
    · rw [isOutline]
      exact outline_eq (labels_spanning _ _).symm isShape

variable (embed) in
/-- Two entries can be spread over the labels of both, provided that there is room.  A label of both has
the dimension that the left one gives to it. -/
theorem exists_broadcast [Platform] {left right : Entry M L} (properLeft : left.Proper used key dim)
    (properRight : right.Proper used key dim) {labels : List L} (uses : ∀ label ∈ labels, used label)
    (different : (labels.map key).Nodup)
    (same : ∀ own, own ∈ labels.map key ↔ own ∈ left.keys key ++ right.keys key) :
    ∃ (dimensions : Dimensions L) (first second : Tensor M),
      dimensionsOf [left.image embed, right.image embed] = .ok dimensions ∧
      Provided
        (Room Shape.PassesSpread left.outline (Dimensions.spanning (left.outline ++ right.outline) labels))
        (first.map embed) (spread (left.image embed) labels dimensions) ∧
      Provided
        (Room Shape.PassesSpread right.outline (Dimensions.spanning (left.outline ++ right.outline) labels))
        (second.map embed) (spread (right.image embed) labels dimensions) ∧
      Entry.Proper used key dim ⟨first, labels⟩ ∧ Entry.Proper used key dim ⟨second, labels⟩ ∧
      first.shape = (Dimensions.spanning (left.outline ++ right.outline) labels).shape ∧
      ∀ place, Keeps dim (labels.map key) place →
        Entry.read default key ⟨first, labels⟩ place = left.read default key place ∧
        Entry.read default key ⟨second, labels⟩ place = right.read default key place := by
  have isOutline : ([left, right].flatMap fun entry => entry.labels.zip entry.tensor.shape) =
      left.outline ++ right.outline := by
    simp [outline]
  have sizedBoth : Sized used key dim (left.outline ++ right.outline) := fun pair inside =>
    (List.mem_append.1 inside).elim (properLeft.sized pair) (properRight.sized pair)
  obtain ⟨dimensions, found, looked⟩ := exists_dimensionsOf tells (isOutline ▸ sizedBoth)
  have looks : ∀ label ∈ labels,
      dimensionOf dimensions label = dimensionOf (left.outline ++ right.outline) label := by
    intro label inside
    rw [looked label (uses label inside), isOutline]
  have sized : ∀ label ∈ labels,
      (dimensionOf (left.outline ++ right.outline) label).value = dim (key label) := by
    intro label inside
    apply value_dimensionOf tells sizedBoth (uses label inside)
    rw [List.map_append, properLeft.keys_outline, properRight.keys_outline, ← same]
    exact List.mem_map_of_mem inside
  have coversLeft : ∀ own ∈ left.keys key, own ∈ labels.map key := fun own inside =>
    (same own).2 (List.mem_append_left _ inside)
  have coversRight : ∀ own ∈ right.keys key, own ∈ labels.map key := fun own inside =>
    (same own).2 (List.mem_append_right _ inside)
  obtain ⟨first, spreadsFirst, properFirst, faithful, elementsFirst⟩ := properLeft.exists_spread tells
    default uses different coversLeft sized
  obtain ⟨second, spreadsSecond, properSecond, _, elementsSecond⟩ := properRight.exists_spread tells
    default uses different coversRight sized
  refine ⟨dimensions, first, second, found, ?_, ?_, properFirst, properSecond, ?_, ?_⟩
  · rw [spread_image, spread_congr looks]
    exact spreadsFirst.map _
  · rw [spread_image, spread_congr looks]
    exact spreadsSecond.map _
  · apply faithful
    intro pair among label inside isKey
    have occurs : key label ∈ left.outline.map fun pair => key pair.1 := by
      rw [isKey]
      exact List.mem_map_of_mem among
    rw [dimensionOf_append tells properLeft.sized (uses label inside) occurs]
    exact properLeft.dimensionOf_outline tells among (uses label inside) isKey
  · intro place keeps
    exact ⟨elementsFirst place keeps, elementsSecond place keeps⟩

/-- The labels of a product are those of both entries: different ones, in the order of all labels. -/
theorem labels_joined {left right : Entry M L} (properLeft : left.Proper used key dim)
    (properRight : right.Proper used key dim) (usesOrder : ∀ label ∈ order, used label)
    (differentOrder : (order.map key).Nodup) (knownLeft : ∀ own ∈ left.keys key, own ∈ order.map key)
    (knownRight : ∀ own ∈ right.keys key, own ∈ order.map key) :
    (∀ label ∈ ordered order (left.labels ++ right.labels), used label) ∧
      (ordered order (left.labels ++ right.labels)).map key = (order.map key).filter
        (fun other => decide (other ∈ left.keys key ++ right.keys key)) ∧
      ((ordered order (left.labels ++ right.labels)).map key).Nodup ∧
      ∀ own, own ∈ (ordered order (left.labels ++ right.labels)).map key ↔
        own ∈ left.keys key ++ right.keys key := by
  have uses : ∀ label ∈ left.labels ++ right.labels, used label := fun label inside =>
    (List.mem_append.1 inside).elim (properLeft.uses label) (properRight.uses label)
  have isJoined : (ordered order (left.labels ++ right.labels)).map key = (order.map key).filter
      (fun other => decide (other ∈ left.keys key ++ right.keys key)) := by
    rw [keys_ordered tells usesOrder uses, List.map_append]
    rfl
  refine ⟨fun label inside => usesOrder label (List.mem_filter.1 inside).1, isJoined, ?_, ?_⟩
  · rw [isJoined]
    exact differentOrder.filter _
  · intro own
    rw [isJoined, List.mem_filter, decide_eq_true_iff]
    constructor
    · exact And.right
    · intro inside
      exact ⟨(List.mem_append.1 inside).elim (knownLeft own) (knownRight own), inside⟩

/-- Two entries can be multiplied, each broadcast over the labels of both, provided that there is room. -/
theorem runOn_join [Platform] (computes : Computes arithmetic embed sum product)
    (usesOrder : ∀ label ∈ order, used label) (differentOrder : (order.map key).Nodup)
    {left right : Entry M L} (properLeft : left.Proper used key dim)
    (properRight : right.Proper used key dim)
    (knownLeft : ∀ own ∈ left.keys key, own ∈ order.map key)
    (knownRight : ∀ own ∈ right.keys key, own ∈ order.map key) (state : σ) :
    ∃ result : Entry M L,
      Gives (Room Shape.PassesSpread left.outline (Dimensions.joined order left.outline right.outline) ∧
          Room Shape.PassesSpread right.outline (Dimensions.joined order left.outline right.outline))
        (result.image embed) (join order product (left.image embed) (right.image embed)) state ∧
      result.Proper used key dim ∧
      result.outline = Dimensions.joined order left.outline right.outline ∧
      result.keys key = (order.map key).filter
        (fun other => decide (other ∈ left.keys key ++ right.keys key)) ∧
      ∀ place, Keeps dim (result.keys key) place → result.read arithmetic.zero key place =
        arithmetic.times (left.read arithmetic.zero key place)
          (right.read arithmetic.zero key place) := by
  obtain ⟨labels, areLabels⟩ : ∃ labels, labels = ordered order (left.labels ++ right.labels) :=
    ⟨_, rfl⟩
  obtain ⟨usesJoined, isJoined, different, same⟩ :=
    properLeft.labels_joined tells properRight usesOrder differentOrder knownLeft knownRight
  rw [← areLabels] at usesJoined isJoined different same
  have isTarget : Dimensions.joined order left.outline right.outline =
      Dimensions.spanning (left.outline ++ right.outline) labels := by
    rw [Dimensions.joined, properLeft.labels_outline, properRight.labels_outline, areLabels]
  obtain ⟨dimensions, first, second, found, spreadsLeft, spreadsRight, properFirst, properSecond,
    isShape, elements⟩ := properLeft.exists_broadcast tells arithmetic.zero embed properRight usesJoined
      different same
  have agree : Shape.Agree first.shape second.shape :=
    properFirst.isShape.trans properSecond.isShape.symm
  obtain ⟨result, ran, resultShape, resultElements⟩ :=
    Tensor.runOn_map2 (fun left right => computes.product left right state) agree
  refine ⟨⟨result, labels⟩, ?_, ⟨usesJoined, different, ?_⟩, ?_, isJoined, ?_⟩
  · have joins : join order product (left.image embed) (right.image embed) = (do
        let dimensions ← dimensionsOf [left.image embed, right.image embed]
        let leftTensor ← spread (left.image embed) labels dimensions
        let rightTensor ← spread (right.image embed) labels dimensions
        pure ⟨← leftTensor.map2 product rightTensor, labels⟩) := by
      rw [areLabels]
      rfl
    rw [joins, found, isTarget]
    apply (Gives.lift spreadsLeft).bind
    apply (Gives.lift spreadsRight).bindOk
    rw [Act.runOn_bind_ok ran]
    rfl
  · exact (congrArg Shape.values resultShape).trans properFirst.isShape
  · rw [isTarget]
    exact outline_eq (labels_spanning _ _).symm (resultShape.trans isShape)
  · intro place keeps
    obtain ⟨isFirst, isSecond⟩ := elements place keeps
    rw [← isFirst, ← isSecond]
    exact resultElements _ _ (keeps.within properFirst.isShape)

omit [AxisLabel L] [DecidableEq K] tells in
theorem different_gone {gone kept : List L} {tensor : Tensor M}
    (proper : Entry.Proper used key dim ⟨tensor, gone ++ kept⟩) : (gone.map key).Nodup :=
  proper.different.sublist ((List.sublist_append_left gone kept).map key)

omit [AxisLabel L] [DecidableEq K] tells in
theorem different_kept {gone kept : List L} {tensor : Tensor M}
    (proper : Entry.Proper used key dim ⟨tensor, gone ++ kept⟩) : (kept.map key).Nodup :=
  proper.different.sublist ((List.sublist_append_right gone kept).map key)

omit [AxisLabel L] [DecidableEq K] tells in
/-- An entry has an axis for each of its first labels. -/
theorem exists_lead {gone kept : List L} {tensor : Tensor M}
    (proper : Entry.Proper used key dim ⟨tensor, gone ++ kept⟩) :
    ∃ lead rest : Shape, tensor.shape = lead ++ rest ∧ lead.length = gone.length := by
  have lengths : (gone ++ kept).length = tensor.shape.length := proper.length_eq
  rw [List.length_append] at lengths
  refine ⟨tensor.shape.take gone.length, _, (List.take_append_drop _ _).symm, ?_⟩
  rw [List.length_take]
  omega

omit [AxisLabel L] [DecidableEq K] tells in
/-- The first axes of an entry have the dimensions of its first labels, and the other axes those of the
other labels. -/
theorem values_append {gone kept : List L} {tensor : Tensor M}
    (proper : Entry.Proper used key dim ⟨tensor, gone ++ kept⟩) {lead rest : Shape}
    (isShape : tensor.shape = lead ++ rest) (sameLength : lead.length = gone.length) :
    lead.values = (gone.map key).map dim ∧ rest.values = (kept.map key).map dim := by
  have values : lead.values ++ rest.values = (gone.map key).map dim ++ (kept.map key).map dim := by
    rw [← List.map_append, ← List.map_append, Shape.values, Shape.values, ← List.map_append, ← isShape]
    exact proper.isShape
  exact List.append_inj values (by simpa [Shape.values] using sameLength)

omit [AxisLabel L] tells in
/-- The elements along the first axes of an entry are those at all assignments of coordinates to the first
labels. -/
theorem elements_lead {gone kept : List L} {tensor : Tensor M}
    (proper : Entry.Proper used key dim ⟨tensor, gone ++ kept⟩) {lead rest : Shape}
    (isShape : tensor.shape = lead ++ rest) (sameLength : lead.length = gone.length) (place : K → Nat) :
    (lead.indices.map fun first => tensor.element default (first ++ (kept.map key).map place)) =
      (assignments dim (gone.map key) place).map
        (Entry.read default key ⟨tensor, gone ++ kept⟩) := by
  have different : (gone.map key ++ kept.map key).Nodup := by
    rw [← List.map_append]
    exact proper.different
  have apart := (List.nodup_append.1 different).2.2
  rw [indices_eq_assignments place proper.different_gone (proper.values_append isShape sameLength).1,
    List.map_map]
  apply List.map_congr_left
  intro other inside
  have unchanged : (kept.map key).map other = (kept.map key).map place := by
    apply List.map_congr_left
    intro own among
    apply ((mem_assignments proper.different_gone).1 inside).2 own
    intro both
    exact apart own both own among rfl
  rw [Function.comp_apply, ← unchanged, ← List.map_append, ← List.map_append]
  rfl

omit [AxisLabel L] tells in
/-- The first labels of an entry can be summed over. -/
theorem runOn_fold (computes : Computes arithmetic embed sum product) {gone kept : List L}
    {tensor : Tensor M} (proper : Entry.Proper used key dim ⟨tensor, gone ++ kept⟩)
    {lead rest : Shape} (isShape : tensor.shape = lead ++ rest) (sameLength : lead.length = gone.length)
    (state : σ) :
    ∃ folded : Tensor M, ((tensor.map embed).fold sum (.number gone.length)).runOn state =
        (.ok (folded.map embed), state) ∧
      Entry.Proper used key dim ⟨folded, kept⟩ ∧ folded.shape = rest ∧
      ∀ place, Keeps dim (kept.map key) place → Entry.read arithmetic.zero key ⟨folded, kept⟩ place =
        arithmetic.summed dim (gone.map key)
          (Entry.read arithmetic.zero key ⟨tensor, gone ++ kept⟩) place := by
  obtain ⟨_, restValues⟩ := proper.values_append isShape sameLength
  obtain ⟨folded, ran, foldedShape, elements⟩ :=
    Tensor.runOn_fold (fun members => computes.sum members state) isShape
  rw [sameLength] at ran
  refine ⟨folded, ran, ⟨?_, proper.different_kept, ?_⟩, foldedShape, ?_⟩
  · intro label inside
    exact proper.uses label (List.mem_append_right _ inside)
  · exact (congrArg Shape.values foldedShape).trans restValues
  · intro place keeps
    calc folded.element arithmetic.zero ((kept.map key).map place)
        = arithmetic.total (lead.indices.map fun first =>
            tensor.element arithmetic.zero (first ++ (kept.map key).map place)) :=
          elements _ _ (keeps.within restValues)
      _ = _ := congrArg arithmetic.total (proper.elements_lead arithmetic.zero isShape sameLength place)

omit [DecidableEq K] tells in
theorem labels_kept_outline {entry : Entry M L} (proper : entry.Proper used key dim) (needed : List L) :
    (entry.outline.kept needed).labels = entry.kept needed := by
  rw [labels_kept, proper.labels_outline]
  rfl

omit [DecidableEq K] tells in
theorem labels_gone_outline {entry : Entry M L} (proper : entry.Proper used key dim) (needed : List L) :
    (entry.outline.gone needed).labels = entry.gone needed := by
  rw [labels_gone, proper.labels_outline]
  rfl

variable (embed) in
/-- The labels of an entry that are not needed can be moved to the front, provided that there is room. -/
theorem exists_sorted [Platform] {entry : Entry M L} (proper : entry.Proper used key dim) (needed : List L) :
    ∃ (dimensions : Dimensions L) (tensor : Tensor M),
      dimensionsOf [entry.image embed] = .ok dimensions ∧
      Provided (Room Shape.PassesSpread entry.outline (entry.outline.sorted needed)) (tensor.map embed)
        (spread (entry.image embed) (entry.gone needed ++ entry.kept needed) dimensions) ∧
      Entry.Proper used key dim ⟨tensor, entry.gone needed ++ entry.kept needed⟩ ∧
      tensor.shape = (entry.outline.gone needed).shape ++ (entry.outline.kept needed).shape ∧
      ∀ place, Keeps dim ((entry.gone needed ++ entry.kept needed).map key) place →
        Entry.read default key ⟨tensor, entry.gone needed ++ entry.kept needed⟩ place =
          entry.read default key place := by
  have rearranged : (entry.gone needed ++ entry.kept needed).Perm entry.labels :=
    List.perm_append_comm.trans (List.filter_append_perm needed.elem entry.labels)
  have isSorted : (entry.outline.sorted needed).labels = entry.gone needed ++ entry.kept needed := by
    rw [← proper.labels_gone_outline, ← proper.labels_kept_outline]
    exact List.map_append
  have isTarget : entry.outline.spanning (entry.gone needed ++ entry.kept needed) =
      entry.outline.sorted needed := by
    rw [← isSorted]
    apply spanning_labels
    intro pair inside
    have among : pair ∈ entry.outline :=
      (List.mem_append.1 inside).elim (fun gone => (List.mem_filter.1 gone).1)
        fun kept => (List.mem_filter.1 kept).1
    exact proper.dimensionOf_outline tells among (proper.sized pair among).1 rfl
  obtain ⟨dimensions, tensor, found, spreads, properTensor, isShape, elements⟩ :=
    proper.exists_rearranged tells default embed
      (fun label inside => proper.uses label (rearranged.mem_iff.1 inside))
      ((rearranged.map key).nodup_iff.2 proper.different)
      (fun own => (rearranged.map key).mem_iff)
  rw [isTarget] at spreads isShape
  exact ⟨dimensions, tensor, found, spreads, properTensor, isShape.trans List.map_append, elements⟩

theorem elem_needed {needed : List L} (usesNeeded : ∀ label ∈ needed, used label) {entry : Entry M L}
    (proper : entry.Proper used key dim) {label : L} (inside : label ∈ entry.labels) :
    needed.elem label = decide (key label ∈ needed.map key) :=
  elem_eq_decide tells usesNeeded (proper.uses label inside)

/-- The keys that stay are those that are needed. -/
theorem keys_kept {needed : List L} (usesNeeded : ∀ label ∈ needed, used label) {entry : Entry M L}
    (proper : entry.Proper used key dim) :
    (entry.kept needed).map key =
      (entry.keys key).filter fun other => decide (other ∈ needed.map key) := by
  apply keys_filter
  intro label inside
  exact proper.elem_needed tells usesNeeded inside

/-- The keys that go are those that are not needed. -/
theorem keys_gone {needed : List L} (usesNeeded : ∀ label ∈ needed, used label) {entry : Entry M L}
    (proper : entry.Proper used key dim) :
    (entry.gone needed).map key =
      (entry.keys key).filter fun other => decide (other ∉ needed.map key) := by
  apply keys_filter
  intro label inside
  rw [proper.elem_needed tells usesNeeded inside, decide_not]

/-- The labels of an entry that are not needed can be summed over, provided that there is room. -/
theorem runOn_eliminate [Platform] (computes : Computes arithmetic embed sum product) {needed : List L}
    (usesNeeded : ∀ label ∈ needed, used label) {entry : Entry M L}
    (proper : entry.Proper used key dim) (state : σ) :
    ∃ result : Entry M L,
      Gives (Room Shape.PassesSpread entry.outline (entry.outline.sorted needed)) (result.image embed)
        (eliminate sum needed (entry.image embed)) state ∧
      result.Proper used key dim ∧ result.outline = entry.outline.kept needed ∧
      result.keys key = (entry.keys key).filter (fun other => decide (other ∈ needed.map key)) ∧
      ∀ place, Keeps dim (result.keys key) place → result.read arithmetic.zero key place =
        arithmetic.summed dim ((entry.keys key).filter fun other => decide (other ∉ needed.map key))
          (entry.read arithmetic.zero key) place := by
  have isKept := proper.keys_kept tells usesNeeded
  have isGone := proper.keys_gone tells usesNeeded
  rw [← isGone, ← isKept, eliminate_eq]
  by_cases none : (entry.gone needed).isEmpty = true
  · have keepsLabels : entry.kept needed = entry.labels :=
      entry.kept_of_gone_nil (List.isEmpty_iff.1 none)
    have keepsOutline : entry.outline.kept needed = entry.outline := by
      apply List.filter_eq_self.2
      intro pair inside
      apply List.filter_eq_self.1 keepsLabels
      rw [← proper.labels_outline]
      exact List.mem_map_of_mem inside
    have noneImage : ((entry.image embed).gone needed).isEmpty = true := none
    have keepsAll : (entry.outline.sorted needed).labels = entry.labels := by
      rw [Dimensions.sorted, keepsOutline, Dimensions.labels, List.map_append]
      change (entry.outline.gone needed).labels ++ entry.outline.labels = _
      rw [proper.labels_gone_outline, List.isEmpty_iff.1 none, proper.labels_outline, List.nil_append]
    refine ⟨entry, ?_, proper, keepsOutline.symm, ?_, ?_⟩
    · rw [if_pos noneImage]
      exact .lift (.given (proper.room_self tells keepsAll))
    · rw [keepsLabels]
      rfl
    · intro place _
      rw [List.isEmpty_iff.1 none]
      exact (arithmetic.summed_nil _).symm
  · have someImage : ¬((entry.image embed).gone needed).isEmpty = true := none
    have sameLength : (entry.outline.gone needed).shape.length = (entry.gone needed).length := by
      rw [← proper.labels_gone_outline, Dimensions.labels, Dimensions.shape, List.length_map,
        List.length_map]
    obtain ⟨dimensions, tensor, found, spreads, properTensor, isShape, elements⟩ :=
      proper.exists_sorted tells arithmetic.zero embed needed
    obtain ⟨folded, ran, properFolded, foldedShape, sums⟩ :=
      runOn_fold arithmetic computes properTensor isShape sameLength state
    refine ⟨⟨folded, entry.kept needed⟩, ?_, properFolded, ?_, rfl, ?_⟩
    · rw [if_neg someImage, found]
      exact (Gives.lift spreads).bindOk (Act.runOn_bind_ok ran _)
    · exact outline_eq (proper.labels_kept_outline needed).symm foldedShape
    · intro place keeps
      rw [sums place keeps]
      apply arithmetic.summed_congr
      intro other inside
      apply elements
      rw [List.map_append]
      exact keeps.extend properTensor.different_gone inside

end Entry.Proper

end

end TensorLogic.Contraction
