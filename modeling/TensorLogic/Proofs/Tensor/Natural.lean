/-
Module: TensorLogic.Proofs.Tensor.Natural
Purpose: Operations that only move elements about commute with a function applied to every element.
Main exports: Tensor.reshape_map, Tensor.diagonal_map, Tensor.stack_map, Tensor.concat_map,
  Tensor.unstack_map, Tensor.lookup_map, Tensor.item_map, Tensor.slices_map
-/
import TensorLogic.Argument
import TensorLogic.Tensor.Stack

namespace TensorLogic.Tensor

variable {α β : Type}

@[simp]
theorem shape_map (function : α → β) (tensor : Tensor α) :
    (tensor.map function).shape = tensor.shape := rfl

@[simp]
theorem order_map (function : α → β) (tensor : Tensor α) :
    (tensor.map function).order = tensor.order := rfl

/-- Mapping a tensor maps its elements. -/
theorem map_ofList (function : α → β) (shape : Shape) (elements : List α)
    (counted : elements.length = shape.size) :
    (ofList shape elements counted).map function =
      ofList shape (elements.map function) (by rw [List.length_map, counted]) :=
  ext_toList rfl rfl

theorem map_constant (function : α → β) (shape : Shape) (value : α) :
    (constant shape value).map function = constant shape (function value) := by
  apply ext_toList (by rfl)
  rw [toList_map, toList_constant, toList_constant, List.map_replicate]

/-- Elements may be mapped before or after they are put into a tensor; their number decides either way. -/
theorem ofElems_map (function : α → β) (shape : Shape) (elements : List α) :
    ofElems shape (elements.map function) = (ofElems shape elements).map (map function) := by
  unfold ofElems
  by_cases counted : elements.length = shape.size
  · rw [dif_pos counted, dif_pos (by rw [List.length_map, counted])]
    exact congrArg Except.ok (map_ofList function shape elements counted).symm
  · rw [dif_neg counted, dif_neg (by rw [List.length_map]; exact counted), List.length_map]
    rfl

/-- Looking up an index does not depend on the elements, so that it may be done before or after mapping. -/
theorem lookup_map (function : α → β) (tensor : Tensor α) (index : List Datum) :
    (tensor.map function).lookup index = (tensor.lookup index).map function := by
  have located : (tensor.map function).shape.locate index = tensor.shape.locate index := rfl
  unfold lookup
  rw [located]
  cases tensor.shape.locate index with
  | error fault => rfl
  | ok found => exact congrArg Except.ok (get_map function tensor found.1 found.2)

theorem item_map (function : α → β) (tensor : Tensor α) :
    (tensor.map function).item = tensor.item.map function := by
  unfold item
  rw [toList_map]
  match tensor.toList with
  | [] => rfl
  | [element] => rfl
  | first :: second :: rest => rfl

/-! ## Reading through an axis map -/

/-- Tensors are equal when their shapes and their elements at every index are. -/
theorem ext_get {left right : Tensor α} (shapes : left.shape = right.shape)
    (elements : ∀ index (inLeft : Within index left.shape) (inRight : Within index right.shape),
      left.get index inLeft = right.get index inRight) : left = right := by
  obtain ⟨shape, stored, counted⟩ := left
  obtain ⟨other, storedRight, countedRight⟩ := right
  obtain rfl : shape = other := shapes
  apply ext_toList (by rfl)
  apply List.ext_getElem?
  intro place
  by_cases bound : place < shape.size
  · have within := Shape.within_index bound
    have fromLeft := getElem?_position ⟨shape, stored, counted⟩ _ within
    have fromRight := getElem?_position ⟨shape, storedRight, countedRight⟩ _ within
    simp only [Shape.position_index bound] at fromLeft fromRight
    rw [fromLeft, fromRight, elements _ within within]
  · rw [List.getElem?_eq_none, List.getElem?_eq_none]
    · simpa using bound
    · simpa using bound

/-- Pulling along axes moves elements without looking at them. -/
theorem pull_map (function : α → β) (tensor : Tensor α) (shape : Shape) (axes : List Nat)
    (fits : Fits tensor.shape shape axes) :
    (tensor.map function).pull shape axes fits = (tensor.pull shape axes fits).map function := by
  apply ext_get (by rfl)
  intro index within _
  calc ((tensor.map function).pull shape axes fits).get index within
    _ = (tensor.map function).get (Index.pull axes index) (within_pull fits within) :=
        get_pull _ _ _ _ _ _
    _ = function (tensor.get (Index.pull axes index) (within_pull fits within)) :=
        get_map _ _ _ _
    _ = function ((tensor.pull shape axes fits).get index within) :=
        congrArg function (get_pull _ _ _ _ _ _).symm
    _ = ((tensor.pull shape axes fits).map function).get index within := (get_map _ _ _ _).symm

theorem isIdentity_map (function : α → β) (tensor : Tensor α) (shape : Shape)
    (axes : List Whole) :
    (tensor.map function).isIdentity shape axes = tensor.isIdentity shape axes := rfl

/-- The first axis that does not fit decides how a reshape is refused. -/
theorem reshape_of_fault [Platform] {tensor : Tensor α} {dimensions axes : List Whole} {shape : Shape}
    {fault : Fault} (read : Shape.ofWholes dimensions = .ok shape)
    (counted : axes.length = tensor.shape.length)
    (faulty : axisFault? axes shape 0 axes tensor.shape = some fault) :
    tensor.reshape dimensions axes = .error fault := by
  unfold reshape
  rw [read]
  simp only [bind, Except.bind, dif_pos counted]
  split
  · rename_i other found
    rw [faulty] at found
    cases found
    rfl
  · rename_i found
    rw [faulty] at found
    cases found

/-- Where the axes fit, nothing changes, or the limits of arrays decide. -/
theorem reshape_of_faultless [Platform] {tensor : Tensor α} {dimensions axes : List Whole} {shape : Shape}
    (read : Shape.ofWholes dimensions = .ok shape) (counted : axes.length = tensor.shape.length)
    (faultless : axisFault? axes shape 0 axes tensor.shape = none) :
    tensor.reshape dimensions axes =
      if tensor.isIdentity shape axes then .ok tensor
      else (Shape.checkSpread tensor.shape shape).map fun _ =>
        tensor.pull shape (axisNumbers axes) (fits_of_axisFault? counted faultless) := by
  unfold reshape
  rw [read]
  simp only [bind, Except.bind, dif_pos counted]
  split
  · rename_i fault found
    rw [faultless] at found
    cases found
  · by_cases identity : tensor.isIdentity shape axes = true
    · rw [if_pos identity, if_pos identity]
    · rw [if_neg identity, if_neg identity]
      cases Shape.checkSpread tensor.shape shape <;> rfl

/-- A map with a wrong number of axes is refused before they are looked at. -/
theorem reshape_of_length [Platform] {tensor : Tensor α} {dimensions axes : List Whole} {shape : Shape}
    (read : Shape.ofWholes dimensions = .ok shape)
    (miscounted : axes.length ≠ tensor.shape.length) :
    tensor.reshape dimensions axes = .error (.axisMapLength axes tensor.order) := by
  unfold reshape
  rw [read]
  simp only [bind, Except.bind, dif_neg miscounted]

/-- Reshaping moves elements without looking at them, and neither do its refusals. -/
theorem reshape_map [Platform] (function : α → β) (tensor : Tensor α) (dimensions axes : List Whole) :
    (tensor.map function).reshape dimensions axes =
      (tensor.reshape dimensions axes).map (map function) := by
  have same : (tensor.map function).shape = tensor.shape := rfl
  cases read : Shape.ofWholes dimensions with
  | error fault =>
      unfold reshape
      rw [read]
      rfl
  | ok shape =>
      by_cases counted : axes.length = tensor.shape.length
      · cases checked : axisFault? axes shape 0 axes tensor.shape with
        | some fault =>
            rw [reshape_of_fault read counted checked, reshape_of_fault read (by rw [same, counted])
              (by rw [same, checked])]
            rfl
        | none =>
            rw [reshape_of_faultless read counted checked,
              reshape_of_faultless read (by rw [same, counted]) (by rw [same, checked]),
              isIdentity_map]
            split
            · rfl
            · have laidOut : Shape.checkSpread (tensor.map function).shape shape =
                  Shape.checkSpread tensor.shape shape := rfl
              rw [laidOut]
              cases Shape.checkSpread tensor.shape shape with
              | error fault => rfl
              | ok => exact congrArg Except.ok (pull_map function tensor shape _ _)
      · rw [reshape_of_length read counted, reshape_of_length read (by rw [same]; exact counted)]
        rfl

theorem reshapeOfData_map [Platform] (function : α → β) (tensor : Tensor α) (shape axes : Datum) :
    (tensor.map function).reshapeOfData shape axes =
      (tensor.reshapeOfData shape axes).map (map function) := by
  unfold reshapeOfData
  cases shape.wholes with
  | error fault => rfl
  | ok dimensions =>
      simp only [bind, Except.bind]
      cases Shape.ofWholes dimensions with
      | error fault => rfl
      | ok =>
          cases axes.wholes with
          | error fault => rfl
          | ok numbers => exact reshape_map function tensor dimensions numbers

theorem isKept_map (function : α → β) (tensor : Tensor α) (shape axes : Datum) :
    (tensor.map function).isKept shape axes = tensor.isKept shape axes := rfl

/-! ## Spreading along diagonals -/

theorem visit_map {γ : Type} {function : γ → Except Fault α} {other : γ → Except Fault β}
    {embed : α → β} (each : ∀ member, other member = (function member).map embed)
    (members : List γ) :
    visit other members = (visit function members).map fun found =>
      ⟨found.val.map embed, by rw [List.length_map, found.2]⟩ := by
  induction members with
  | nil => rfl
  | cons member members hypothesis =>
      simp only [visit, each, hypothesis]
      cases function member with
      | error fault => rfl
      | ok result =>
          cases visit function members with
          | error fault => rfl
          | ok found => rfl

/-- A function may be mapped before or after a tensor is generated from it. -/
theorem generateM_map {function : Index → Except Fault α} {other : Index → Except Fault β}
    {embed : α → β} (each : ∀ index, other index = (function index).map embed) (shape : Shape) :
    generateM shape other = (generateM shape function).map (map embed) := by
  unfold generateM
  rw [visit_map each]
  cases visit function shape.indices with
  | error fault => rfl
  | ok found => exact congrArg Except.ok (map_ofList embed shape _ _).symm

theorem diagonalElement_map (function : α → β) (tensor : Tensor α) (axes : List Nat) (default : α)
    (index : Index) :
    (tensor.map function).diagonalElement axes (function default) index =
      (tensor.diagonalElement axes default index).map function := by
  unfold diagonalElement
  rw [order_map]
  cases settle axes index (List.replicate tensor.order (-1)) with
  | none => rfl
  | some coordinates => exact lookup_map function tensor _

/-- Taking diagonals moves elements without looking at them; the default is mapped like them. -/
theorem diagonal_map [Platform] (function : α → β) (tensor : Tensor α) (axes : List Whole) (default : α) :
    (tensor.map function).diagonal axes (function default) =
      (tensor.diagonal axes default).map (map function) := by
  have sameCover : (tensor.map function).Covers axes ↔ tensor.Covers axes := Iff.rfl
  unfold diagonal
  by_cases covers : tensor.Covers axes
  · rw [if_pos covers, if_pos (sameCover.2 covers)]
    simp only [shape_map, generateM_map (diagonalElement_map function tensor (axisNumbers axes) default)]
    cases Shape.checkRanges _ <;> rfl
  · rw [if_neg covers, if_neg fun image => covers (sameCover.1 image)]
    rfl

theorem diagonalOfData_map [Platform] (function : α → β) (tensor : Tensor α) (axes : Datum) {default : α}
    {image : β} (isImage : function default = image) :
    (tensor.map function).diagonalOfData axes image =
      (tensor.diagonalOfData axes default).map (map function) := by
  subst isImage
  unfold diagonalOfData
  cases axes.wholes with
  | error fault => rfl
  | ok numbers => exact diagonal_map function tensor numbers default

/-! ## Cutting the storage and putting it together -/

/-- Slices of a mapped tensor are mapped slices. -/
theorem slice_map (function : α → β) (tensor : Tensor α) (length place : Nat) :
    (tensor.map function).slice length place = (tensor.slice length place).map function := by
  have stored : (tensor.map function).elems.toList = tensor.elems.toList.map function := rfl
  unfold slice
  rw [Array.toList_extract, Array.toList_extract, stored]
  simp only [List.extract_eq_take_drop, List.map_take, List.map_drop]

theorem slices_map (function : α → β) (tensor : Tensor α) (count : Nat) :
    (tensor.map function).slices count = (tensor.slices count).map (List.map function) := by
  unfold slices
  rw [List.map_map]
  exact List.map_congr_left fun place _ => slice_map function tensor _ place

theorem unstack_of_nonempty {tensor : Tensor α} (nonempty : tensor.shape ≠ []) :
    tensor.unstack = .ok (tensor.pieces nonempty) :=
  dif_pos nonempty

theorem unstack_of_scalar {tensor : Tensor α} (isScalar : ¬tensor.shape ≠ []) :
    tensor.unstack = .error .unstackScalar :=
  dif_neg isScalar

theorem pieces_map (function : α → β) (tensor : Tensor α) (nonempty : tensor.shape ≠ []) :
    (tensor.map function).pieces nonempty = (tensor.pieces nonempty).map (map function) := by
  unfold pieces
  rw [List.map_ofFn]
  congr 1
  funext place
  apply ext_toList (by rfl)
  exact slice_map function tensor _ _

/-- Taking a tensor apart moves elements without looking at them. -/
theorem unstack_map (function : α → β) (tensor : Tensor α) :
    (tensor.map function).unstack = tensor.unstack.map (List.map (map function)) := by
  by_cases nonempty : tensor.shape ≠ []
  · have nonemptyImage : (tensor.map function).shape ≠ [] := nonempty
    rw [unstack_of_nonempty nonempty, unstack_of_nonempty nonemptyImage]
    exact congrArg Except.ok (pieces_map function tensor nonempty)
  · have isScalar : ¬(tensor.map function).shape ≠ [] := nonempty
    rw [unstack_of_scalar nonempty, unstack_of_scalar isScalar]
    rfl

/-- Tensors that fit together along their last axes are joined. -/
theorem concat_of_joinable {left right : Tensor α} (joinable : Joinable left.shape right.shape) :
    left.concat right = .ok (left.joined right joinable) :=
  dif_pos joinable

/-- Tensors that do not fit together are refused with their shapes. -/
theorem concat_of_not_joinable {left right : Tensor α}
    (differ : ¬Joinable left.shape right.shape) :
    left.concat right = .error (.concatShapes left.shape right.shape) :=
  dif_neg differ

theorem concat_map (function : α → β) (left right : Tensor α) :
    (left.map function).concat (right.map function) =
      (left.concat right).map (map function) := by
  by_cases joinable : Joinable left.shape right.shape
  · have joinableImage : Joinable (left.map function).shape (right.map function).shape := joinable
    rw [concat_of_joinable joinable, concat_of_joinable joinableImage]
    refine congrArg Except.ok ?_
    apply ext_toList (by rfl)
    exact List.map_append.symm
  · have differ : ¬Joinable (left.map function).shape (right.map function).shape := joinable
    rw [concat_of_not_joinable joinable, concat_of_not_joinable differ]
    rfl

theorem stackAll_map (function : α → β) (shape : Shape) (tensors : List (Tensor α))
    (agree : ∀ tensor ∈ tensors, Shape.Agree tensor.shape shape)
    (agreeImage : ∀ tensor ∈ tensors.map (map function), Shape.Agree tensor.shape shape) :
    stackAll shape (tensors.map (map function)) agreeImage =
      (stackAll shape tensors agree).map function := by
  apply ext_toList
  · simp only [stackAll, ofList, shape_map, List.length_map]
  · rw [toList_map, toList_stackAll, toList_stackAll, List.flatMap_map, List.map_flatMap]
    rfl

theorem stack_of_agree {tensors : List (Tensor α)} {dimensions : List Whole} {shape : Shape}
    (read : Shape.ofWholes dimensions = .ok shape)
    (agree : ∀ tensor ∈ tensors, Shape.Agree tensor.shape shape) :
    stack tensors (some dimensions) = .ok (stackAll shape tensors agree) := by
  have none : tensors.find? (fun tensor => ¬Shape.Agree tensor.shape shape) = none := by
    rw [List.find?_eq_none]
    intro tensor member
    simpa using agree tensor member
  simp only [stack, read, bind, Except.bind]
  split
  · rename_i tensor found
    rw [none] at found
    cases found
  · rfl

theorem stack_of_found {tensors : List (Tensor α)} {dimensions : List Whole} {shape : Shape}
    {tensor : Tensor α} (read : Shape.ofWholes dimensions = .ok shape)
    (found : tensors.find? (fun tensor => ¬Shape.Agree tensor.shape shape) = some tensor) :
    stack tensors (some dimensions) = .error (.stackShape tensor.shape shape) := by
  simp only [stack, read, bind, Except.bind]
  split
  · rename_i other isOther
    rw [found] at isOther
    cases isOther
    rfl
  · rename_i none
    rw [found] at none
    cases none

theorem stack_map (function : α → β) (tensors : List (Tensor α)) (dimensions : List Whole) :
    stack (tensors.map (map function)) (some dimensions) =
      (stack tensors (some dimensions)).map (map function) := by
  cases read : Shape.ofWholes dimensions with
  | error fault =>
      simp only [stack, read]
      rfl
  | ok shape =>
      have foundImage : (tensors.map (map function)).find? (fun tensor =>
          ¬Shape.Agree tensor.shape shape) =
            (tensors.find? fun tensor => ¬Shape.Agree tensor.shape shape).map (map function) :=
        List.find?_map
      cases found : tensors.find? (fun tensor => ¬Shape.Agree tensor.shape shape) with
      | some tensor =>
          rw [found] at foundImage
          rw [stack_of_found read found, stack_of_found read foundImage]
          rfl
      | none =>
          have agree : ∀ tensor ∈ tensors, Shape.Agree tensor.shape shape := by
            intro tensor member
            simpa using List.find?_eq_none.1 found tensor member
          have agreeImage : ∀ tensor ∈ tensors.map (map function),
              Shape.Agree tensor.shape shape := by
            intro image member
            obtain ⟨tensor, inside, rfl⟩ := List.mem_map.1 member
            exact agree tensor inside
          rw [stack_of_agree read agree, stack_of_agree read agreeImage]
          exact congrArg Except.ok (stackAll_map function shape tensors agree agreeImage)

end TensorLogic.Tensor
