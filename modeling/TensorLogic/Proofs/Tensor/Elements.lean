/-
Module: TensorLogic.Proofs.Tensor.Elements
Purpose: The elements of tensors that are rearranged, combined or folded, index by index.
Main exports: Tensor.element, Tensor.exists_reshape, Tensor.runOn_map2, Tensor.slice_eq,
  Tensor.runOn_fold
-/
import TensorLogic.Proofs.Effect.Run
import TensorLogic.Proofs.Tensor.Stacked

namespace TensorLogic

/-! ## Indices of shapes that are put together -/

namespace Shape

/-- The size of a shape is the product of the sizes of its two parts. -/
theorem size_append (lead rest : Shape) : size (lead ++ rest) = size lead * size rest := by
  induction lead with
  | nil => simp [size]
  | cons dimension lead hypothesis =>
      rw [List.cons_append, size, size, hypothesis, Nat.mul_assoc]

theorem length_eq_of_within {index : Index} {shape : Shape} (within : Within index shape) :
    index.length = shape.length := by
  induction shape generalizing index with
  | nil =>
      cases index with
      | nil => rfl
      | cons => exact within.elim
  | cons dimension shape hypothesis =>
      cases index with
      | nil => exact within.elim
      | cons coordinate index => rw [List.length_cons, List.length_cons, hypothesis within.2]

/-- An index lies within a shape when its two parts lie within the two parts of this. -/
theorem within_append {lead rest : Shape} {left right : Index} (within : Within left lead) :
    Within (left ++ right) (lead ++ rest) ↔ Within right rest := by
  induction lead generalizing left with
  | nil =>
      cases left with
      | nil => exact Iff.rfl
      | cons => exact within.elim
  | cons dimension lead hypothesis =>
      cases left with
      | nil => exact within.elim
      | cons coordinate left =>
          constructor
          · intro both
            exact (hypothesis within.2).1 both.2
          · intro later
            exact ⟨within.1, (hypothesis within.2).2 later⟩

/-- The last coordinates count pieces as large as the shape of the first ones. -/
theorem position_append {lead rest : Shape} {left right : Index} (within : Within left lead) :
    position (lead ++ rest) (left ++ right) = position lead left + size lead * position rest right := by
  induction lead generalizing left with
  | nil =>
      cases left with
      | nil => simp [position, size]
      | cons => exact within.elim
  | cons dimension lead hypothesis =>
      cases left with
      | nil => exact within.elim
      | cons coordinate left =>
          rw [List.cons_append, List.cons_append, position, position, size, hypothesis within.2,
            Nat.mul_add, Nat.mul_assoc, Nat.add_assoc]

/-- Whether an index lies within a shape depends on the values of the dimensions only. -/
theorem Agree.within_iff {left right : Shape} (agree : Agree left right) {index : Index} :
    Within index left ↔ Within index right := by
  induction left generalizing right index with
  | nil =>
      cases right with
      | nil => exact Iff.rfl
      | cons => simp [Agree, values] at agree
  | cons dimension left hypothesis =>
      cases right with
      | nil => simp [Agree, values] at agree
      | cons other right =>
          simp only [Agree, values, List.map_cons, List.cons.injEq] at agree
          cases index with
          | nil => exact Iff.rfl
          | cons coordinate index =>
              change _ < _ ∧ _ ↔ _ < _ ∧ _
              rw [agree.1, hypothesis agree.2]

/-- An index has the same position in shapes that agree. -/
theorem Agree.position_eq {left right : Shape} (agree : Agree left right) (index : Index) :
    position left index = position right index := by
  induction left generalizing right index with
  | nil =>
      cases right with
      | nil => rfl
      | cons => simp [Agree, values] at agree
  | cons dimension left hypothesis =>
      cases right with
      | nil => simp [Agree, values] at agree
      | cons other right =>
          simp only [Agree, values, List.map_cons, List.cons.injEq] at agree
          cases index with
          | nil => rfl
          | cons coordinate index => rw [position, position, agree.1, hypothesis agree.2]

end Shape

/-! ## Reading elements -/

namespace Tensor

variable {α β γ σ : Type}

/-- The element at an index, or a given one where there is none. -/
def element (tensor : Tensor α) (default : α) (index : Index) : α :=
  if within : Within index tensor.shape then tensor.get index within else default

variable {tensor : Tensor α} {index : Index}

theorem element_of_within {default : α} (within : Within index tensor.shape) :
    tensor.element default index = tensor.get index within := dif_pos within

/-- What is read at an index within the shape is stored at the place of the index. -/
theorem getElem?_eq_element (default : α) (within : Within index tensor.shape) :
    tensor.toList[tensor.shape.position index]? = some (tensor.element default index) := by
  rw [element_of_within within]
  exact tensor.getElem?_position index within

/-- An axis map that sends each axis to itself picks out the index itself. -/
theorem pull_range (index : Index) : Index.pull (List.range index.length) index = index := by
  unfold Index.pull
  apply List.ext_getElem
  · simp
  · intro place inside bound
    simp [bound]

/-- The element at an index of a pulled tensor is the one that the index is pulled to. -/
theorem element_pull (default : α) (shape : Shape) (axes : List Nat)
    (fits : Fits tensor.shape shape axes) (within : Within index shape) :
    (tensor.pull shape axes fits).element default index =
      tensor.element default (Index.pull axes index) := by
  have inside : Within index (tensor.pull shape axes fits).shape := within
  rw [element_of_within inside, element_of_within (within_pull fits within)]
  exact get_pull tensor shape axes fits index within

/-- An axis map that is given by the numbers of axes. -/
def axisMap (axes : List Nat) : List Whole := axes.map fun (axis : Nat) => .number axis

/-- A map has no fault exactly when it fits, and no entry is negative. -/
theorem axisFault?_eq_none {axes : List Whole} {shape : Shape} {axis : Nat} {targets : List Whole}
    {dimensions : Shape} (counted : targets.length = dimensions.length) :
    axisFault? axes shape axis targets dimensions = none ↔
      (∀ target ∈ targets, 0 ≤ target.value) ∧ Fits dimensions shape (axisNumbers targets) := by
  induction targets generalizing dimensions axis with
  | nil =>
      cases dimensions with
      | nil => simp [axisFault?, Fits, axisNumbers, Shape.values]
      | cons => cases counted
  | cons target targets hypothesis =>
      cases dimensions with
      | nil => cases counted
      | cons dimension dimensions =>
          have rest := @hypothesis (axis + 1) dimensions (Nat.succ.inj counted)
          simp only [axisFault?, List.mem_cons, forall_eq_or_imp, Fits, Shape.values, axisNumbers,
            List.map_cons, List.cons.injEq, List.getElem?_map] at rest ⊢
          split
          · simp; omega
          · cases shape[target.value.toNat]? with
            | none => simp
            | some found =>
                have isPositive : 0 ≤ target.value := by omega
                by_cases same : found.value = dimension.value
                · simp [same, isPositive, rest]
                · simp [same]

/-- A fault of a map is a wrong value. -/
theorem category_of_axisFault? {axes : List Whole} {shape : Shape} {axis : Nat} {targets : List Whole}
    {dimensions : Shape} {fault : Fault}
    (faulty : axisFault? axes shape axis targets dimensions = some fault) : fault.category = .value := by
  induction targets generalizing dimensions axis with
  | nil => simp [axisFault?] at faulty
  | cons target targets hypothesis =>
      cases dimensions with
      | nil => simp [axisFault?] at faulty
      | cons dimension dimensions =>
          unfold axisFault? at faulty
          split at faulty
          · obtain rfl := Option.some.inj faulty
            rfl
          · split at faulty
            · obtain rfl := Option.some.inj faulty
              rfl
            · split at faulty
              · exact hypothesis faulty
              · obtain rfl := Option.some.inj faulty
                rfl

/-- A map to some dimensions changes nothing: the dimensions stay, and every axis goes to itself. -/
def Unchanged (tensor : Tensor α) (target : Shape) (axes : List Nat) : Prop :=
  Shape.Agree target tensor.shape ∧ axes = List.range tensor.order

instance (tensor : Tensor α) (target : Shape) (axes : List Nat) :
    Decidable (tensor.Unchanged target axes) :=
  inferInstanceAs (Decidable (_ ∧ _))

/-- A reshape along a map that fits leaves the tensor as it is, or reads it through the map. -/
theorem reshape_of_fits [Platform] {target : Shape} {axes : List Whole}
    (nonnegative : ∀ axis ∈ axes, 0 ≤ axis.value) (fits : Fits tensor.shape target (axisNumbers axes)) :
    tensor.reshape (target.map Count.toWhole) axes =
      if tensor.Unchanged target (axisNumbers axes) then .ok tensor
      else (Shape.checkSpread tensor.shape target).map fun _ =>
        tensor.pull target (axisNumbers axes) fits := by
  have counted : axes.length = tensor.shape.length := by
    simpa [Shape.values, axisNumbers] using congrArg List.length fits
  have faultless : axisFault? axes target 0 axes tensor.shape = none :=
    (axisFault?_eq_none counted).2 ⟨nonnegative, fits⟩
  have identity : tensor.isIdentity target axes = true ↔ tensor.Unchanged target (axisNumbers axes) := by
    simp [isIdentity, Unchanged]
  simp only [reshape_of_faultless (Shape.ofWholes_toWhole target) counted faultless, identity]

theorem axisNumbers_axisMap (axes : List Nat) : axisNumbers (axisMap axes) = axes := by
  rw [axisNumbers, axisMap, List.map_map]
  exact List.map_id axes

/-- A tensor can be rearranged by an axis map that fits, unless something changes and the arrays of both
shapes cannot be laid out.  Every element is the one at the coordinates that the axis map picks out. -/
theorem exists_reshape [Platform] (default : α) {target : Shape} {axes : List Nat}
    (fits : Fits tensor.shape target axes) :
    ∃ result, tensor.reshape (target.map Count.toWhole) (axisMap axes) =
        (if Shape.Agree target tensor.shape ∧ axes = List.range tensor.order then .ok result
        else (Shape.checkSpread tensor.shape target).map fun _ => result) ∧
      result.shape = (if Shape.Agree target tensor.shape ∧ axes = List.range tensor.order
        then tensor.shape else target) ∧
      ∀ index, Within index target →
        result.element default index = tensor.element default (Index.pull axes index) := by
  have isMap : axisNumbers (axisMap axes) = axes := axisNumbers_axisMap axes
  have nonnegative : ∀ axis ∈ axisMap axes, 0 ≤ axis.value := by simp [axisMap]
  have fitsMap : Fits tensor.shape target (axisNumbers (axisMap axes)) := isMap.symm ▸ fits
  have reshaped := reshape_of_fits nonnegative fitsMap
  simp only [Unchanged, isMap] at reshaped
  rw [reshaped]
  by_cases unchanged : Shape.Agree target tensor.shape ∧ axes = List.range tensor.order
  · rw [if_pos unchanged]
    refine ⟨tensor, (if_pos unchanged).symm, (if_pos unchanged).symm, fun index within => ?_⟩
    have isLength : index.length = tensor.order :=
      Shape.length_eq_of_within (unchanged.1.within_iff.1 within)
    rw [unchanged.2, ← isLength, pull_range]
  · rw [if_neg unchanged]
    exact ⟨tensor.pull target axes fits, (if_neg unchanged).symm, (if_neg unchanged).symm,
      fun index within => element_pull default target axes fits within⟩

/-! ## Pairs of elements, and pieces of the storage -/

/-- A visit of images, where the results are images, too. -/
theorem runOn_visitImages {δ : Type} {function : β → Act σ γ} {embed : α → β} {result : δ → γ}
    {value : α → δ} {state : σ}
    (each : ∀ member, (function (embed member)).runOn state = (.ok (result (value member)), state))
    {members : List α} {images : List β} (areImages : images = members.map embed) :
    ∃ found, (visit function images).runOn state = (.ok found, state) ∧
      found.val = (members.map value).map result := by
  subst areImages
  induction members with
  | nil => exact ⟨⟨[], rfl⟩, rfl, rfl⟩
  | cons member members hypothesis =>
      obtain ⟨found, ran, isFound⟩ := hypothesis
      refine ⟨⟨result (value member) :: found.val, congrArg Nat.succ found.2⟩, ?_, ?_⟩
      · change (visit function (embed member :: members.map embed)).runOn state = _
        unfold visit
        rw [Act.runOn_bind_ok (each member), Act.runOn_bind_ok ran]
        rfl
      · change result (value member) :: found.val = _
        rw [isFound]
        rfl

theorem runOn_visit2 {embed : α → γ} {function : γ → γ → Act σ γ} {value : α → α → α} {state : σ}
    (each : ∀ left right,
      (function (embed left) (embed right)).runOn state = (.ok (embed (value left right)), state))
    {lefts rights : List α} {firsts seconds : List γ} (areFirsts : firsts = lefts.map embed)
    (areSeconds : seconds = rights.map embed) (same : firsts.length = seconds.length) :
    ∃ found, (visit2 function firsts seconds same).runOn state = (.ok found, state) ∧
      found.val = (List.zipWith value lefts rights).map embed := by
  induction lefts generalizing rights firsts seconds with
  | nil =>
      cases rights with
      | nil =>
          subst areFirsts areSeconds
          exact ⟨⟨[], rfl⟩, rfl, rfl⟩
      | cons =>
          subst areFirsts areSeconds
          cases same
  | cons left lefts hypothesis =>
      cases rights with
      | nil =>
          subst areFirsts areSeconds
          cases same
      | cons right rights =>
          subst areFirsts areSeconds
          obtain ⟨found, ran, isFound⟩ := hypothesis rfl rfl (Nat.succ.inj same)
          refine ⟨⟨embed (value left right) :: found.val, congrArg Nat.succ found.2⟩, ?_, ?_⟩
          · change (visit2 function (embed left :: lefts.map embed)
              (embed right :: rights.map embed) same).runOn state = _
            unfold visit2
            rw [Act.runOn_bind_ok (each left right), Act.runOn_bind_ok ran]
            rfl
          · change embed (value left right) :: found.val = _
            rw [isFound]
            rfl

/-- The elements of a tensor that is computed pair by pair, from images of two tensors. -/
theorem runOn_map2 {embed : α → γ} {function : γ → γ → Act σ γ} {value : α → α → α} {state : σ}
    (each : ∀ left right,
      (function (embed left) (embed right)).runOn state = (.ok (embed (value left right)), state))
    {left right : Tensor α} (agree : Shape.Agree left.shape right.shape) :
    ∃ result : Tensor α, ((left.map embed).map2 function (right.map embed)).runOn state =
        (.ok (result.map embed), state) ∧ result.shape = left.shape ∧
      ∀ default index, Within index left.shape → result.element default index =
        value (left.element default index) (right.element default index) := by
  have sameSize : left.toList.length = right.toList.length := by
    rw [length_toList, length_toList, agree.size_eq]
  have agreeImages : Shape.Agree (left.map embed).shape (right.map embed).shape := agree
  obtain ⟨found, ran, isFound⟩ := runOn_visit2 each (toList_map embed left) (toList_map embed right)
    (by rw [length_toList, length_toList, agreeImages.size_eq])
  have counted : (List.zipWith value left.toList right.toList).length = left.shape.size := by
    rw [List.length_zipWith, ← sameSize, Nat.min_self, length_toList]
  refine ⟨ofList left.shape (List.zipWith value left.toList right.toList) counted, ?_, rfl, ?_⟩
  · unfold map2
    rw [dif_pos agreeImages, Act.runOn_bind_ok ran]
    apply congrArg (fun tensor => (Except.ok tensor, state))
    exact ext_toList rfl isFound
  · intro default index within
    have withinRight := agree.within_iff.1 within
    have fromLeft := getElem?_eq_element default within
    have fromRight := getElem?_eq_element default withinRight
    rw [← agree.position_eq] at fromRight
    have combined := @getElem?_eq_element α (ofList left.shape
      (List.zipWith value left.toList right.toList) counted) index default within
    have stored : (List.zipWith value left.toList right.toList)[left.shape.position index]? =
        some (value (left.element default index) (right.element default index)) := by
      rw [List.getElem?_zipWith, fromLeft, fromRight]
    exact Option.some.inj (combined.symm.trans stored)

/-- The piece of the storage at a place on the trailing axes lists the elements there, for all indices
of the leading axes. -/
theorem slice_eq (default : α) {lead rest : Shape} (isShape : tensor.shape = lead ++ rest)
    {index : Index} (within : Within index rest) :
    tensor.slice lead.size (rest.position index) =
      lead.indices.map fun first => tensor.element default (first ++ index) := by
  have enough : (rest.position index + 1) * lead.size ≤ tensor.toList.length := by
    rw [length_toList, isShape, Shape.size_append, Nat.mul_comm]
    exact Nat.mul_le_mul_left _ (Shape.position_lt within)
  have stored : tensor.slice lead.size (rest.position index) =
      (tensor.toList.drop (rest.position index * lead.size)).take lead.size := by
    rw [slice, Array.toList_extract, List.extract_eq_take_drop, Nat.succ_mul,
      Nat.add_sub_cancel_left]
    rfl
  rw [stored]
  apply List.ext_getElem?
  intro place
  by_cases bound : place < lead.size
  · have first := Shape.within_index bound
    have both : Within (lead.index place ++ index) tensor.shape := by
      rw [isShape]
      exact (Shape.within_append first).2 within
    have there := getElem?_eq_element default both
    rw [isShape, Shape.position_append first, Shape.position_index bound, Nat.add_comm,
      Nat.mul_comm] at there
    rw [List.getElem?_take_of_lt bound, List.getElem?_drop, there]
    simp [Shape.indices, bound]
  · rw [List.getElem?_eq_none, List.getElem?_eq_none]
    · rw [List.length_map, Shape.length_indices]
      omega
    · rw [List.length_take]
      omega

/-- The elements of a tensor whose leading axes are folded, where the fold is computed from images. -/
theorem runOn_fold {embed : α → γ} {function : List γ → Act σ γ} {value : List α → α} {state : σ}
    (each : ∀ members,
      (function (members.map embed)).runOn state = (.ok (embed (value members)), state))
    {lead rest : Shape} (isShape : tensor.shape = lead ++ rest) :
    ∃ result : Tensor α, ((tensor.map embed).fold function (.number lead.length)).runOn state =
        (.ok (result.map embed), state) ∧ result.shape = rest ∧
      ∀ default index, Within index rest → result.element default index =
        value (lead.indices.map fun first => tensor.element default (first ++ index)) := by
  have leading : tensor.shape.take lead.length = lead := by rw [isShape, List.take_left]
  have trailing : tensor.shape.drop lead.length = rest := by rw [isShape, List.drop_left]
  have counted : ((tensor.slices lead.length).map value).length = rest.size := by
    rw [List.length_map, slices, List.length_map, List.length_range, trailing]
  obtain ⟨found, ran, isFound⟩ := runOn_visitImages each (slices_map embed tensor lead.length)
  refine ⟨ofList rest ((tensor.slices lead.length).map value) counted, ?_, rfl, ?_⟩
  · have within : 0 ≤ (Whole.number lead.length).value ∧
        (Whole.number lead.length).value ≤ (tensor.map embed).order := by
      have isOrder : (tensor.map embed).order = lead.length + rest.length := by
        change tensor.shape.length = _
        rw [isShape, List.length_append]
      rw [isOrder]
      change 0 ≤ (lead.length : Int) ∧ (lead.length : Int) ≤ (lead.length + rest.length : Nat)
      omega
    have visits : (visit function ((tensor.map embed).slices
        (Whole.number lead.length).value.toNat)).runOn state = (.ok found, state) := ran
    unfold fold
    rw [if_pos within, Act.runOn_bind_ok visits]
    apply congrArg (fun tensor => (Except.ok tensor, state))
    exact ext_toList trailing isFound
  · intro default index within
    have bound := Shape.position_lt within
    have stored : ((tensor.slices lead.length).map value)[rest.position index]? =
        some (value (lead.indices.map fun first => tensor.element default (first ++ index))) := by
      rw [← slice_eq default isShape within]
      simp [slices, leading, trailing, bound]
    have there := @getElem?_eq_element α (ofList rest
      ((tensor.slices lead.length).map value) counted) index default within
    exact Option.some.inj (there.symm.trans stored)

end Tensor

end TensorLogic
