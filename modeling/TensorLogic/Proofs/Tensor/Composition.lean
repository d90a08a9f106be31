/-
Module: TensorLogic.Proofs.Tensor.Composition
Purpose: Two reshapes, one after the other, come to one along the composed axis map.
Main exports: followed, Fits.followed, Index.pull_followed, Tensor.composed, Tensor.transposition,
  Tensor.reshape_composes
-/
import TensorLogic.Proofs.Tensor.Reindexing
import Mathlib.Algebra.BigOperators.Group.List.Basic
import Mathlib.Data.List.FinRange

namespace TensorLogic

/-!
Axis maps are composed by looking up where the first one leads to in the second one.  Indices are pulled
back along the maps in the other order.  Since every step moves the elements through arrays of its own, the
composed step is possible whenever both steps are; only where a step changes nothing are no arrays needed,
so that a truth value among the dimensions goes unnoticed there.
-/

/-- The axes that two axis maps lead to, one after the other. -/
def followed (first second : List Nat) : List Nat := first.map fun axis => second.getD axis 0

namespace Fits

variable {source middle target : Shape} {axes first second : List Nat}

/-- An axis map that fits has one entry for each axis. -/
theorem length_eq (fits : Fits source target axes) : axes.length = source.length :=
  (fits_iff.1 fits).1

/-- The entries of a map that fits are axes of the new shape. -/
theorem lt_length (fits : Fits source target axes) : ∀ axis ∈ axes, axis < target.length := by
  intro axis member
  obtain ⟨place, inside, rfl⟩ := List.getElem_of_mem member
  have bound : place < source.values.length := by simpa [Shape.values, ← fits.length_eq] using inside
  have found := (fits_iff.1 fits).2 place _ _ (List.getElem?_eq_getElem inside)
    (List.getElem?_eq_getElem bound)
  simpa [Shape.values] using (List.getElem?_eq_some_iff.1 found).1

/-- An axis has the dimension of the one that it goes to. -/
theorem values_getD (fits : Fits source target axes) {axis : Nat} (inside : axis < source.length) :
    target.values[axes.getD axis 0]? = source.values[axis]? := by
  have bound : axis < axes.length := fits.length_eq ▸ inside
  have found : axis < source.values.length := by simpa [Shape.values] using inside
  rw [List.getElem?_eq_getElem found]
  apply (fits_iff.1 fits).2 axis _ _ _ (List.getElem?_eq_getElem found)
  simp [List.getD_eq_getElem?_getD, bound]

/-- Maps that fit can be composed. -/
theorem followed (fits : Fits source middle first) (later : Fits middle target second) :
    Fits source target (followed first second) := by
  rw [Fits, ← fits, TensorLogic.followed, List.map_map]
  exact List.map_congr_left fun axis member => later.values_getD (fits.lt_length axis member)

end Fits

/-- Indices are pulled back along the second map first. -/
theorem Index.pull_followed {first second : List Nat} (inside : ∀ axis ∈ first, axis < second.length)
    (index : Index) :
    Index.pull first (Index.pull second index) = Index.pull (followed first second) index := by
  unfold Index.pull followed
  rw [List.map_map]
  apply List.map_congr_left
  intro axis member
  have bound := inside axis member
  simp [List.getD_eq_getElem?_getD, bound]

/-- Following the map that sends each axis to itself. -/
theorem followed_range {second : List Nat} {order : Nat} (counted : second.length = order) :
    followed (List.range order) second = second := by
  subst counted
  apply List.ext_getElem (by simp [followed])
  intro place inside bound
  simp [followed, bound]

theorem followed_range_right {first : List Nat} {order : Nat} (inside : ∀ axis ∈ first, axis < order) :
    followed first (List.range order) = first := by
  have same : ∀ axis ∈ first, (List.range order).getD axis 0 = axis := fun axis member => by
    simp [List.getD_eq_getElem?_getD, inside axis member]
  rw [followed, List.map_congr_left same, List.map_id']

/-- Each axis sent to itself. -/
theorem Fits.range (shape : Shape) : Fits shape shape (List.range shape.length) := by
  refine fits_iff.2 ⟨by simp, fun place axis dimension isAxis isDimension => ?_⟩
  obtain ⟨inside, rfl⟩ := List.getElem?_eq_some_iff.1 isAxis
  simpa using isDimension

namespace Shape

/-! ## The arrays of two steps -/

/-- Shapes that agree have the same extent. -/
theorem Agree.extent_eq {left right : Shape} (agree : Agree left right) : extent left = extent right := by
  induction left generalizing right with
  | nil =>
      cases right with
      | nil => rfl
      | cons => simp [Agree, values] at agree
  | cons dimension left hypothesis =>
      cases right with
      | nil => simp [Agree, values] at agree
      | cons other right =>
          simp only [Agree, values, List.map_cons, List.cons.injEq] at agree
          rw [extent, extent, agree.1, hypothesis agree.2]

theorem Agree.length_eq {left right : Shape} (agree : Agree left right) : left.length = right.length := by
  simpa [values] using congrArg List.length agree

/-- What holds of the values of all dimensions also holds for a shape that agrees. -/
theorem Agree.forall_value {left right : Shape} (agree : Agree left right) (Property : Nat → Prop)
    (all : ∀ dimension ∈ left, Property dimension.value) :
    ∀ dimension ∈ right, Property dimension.value := by
  intro dimension member
  have isValue : dimension.value ∈ values left := agree ▸ List.mem_map_of_mem member
  obtain ⟨found, isFound, same⟩ := List.mem_map.1 isValue
  exact same ▸ all found isFound

/-- Within the limits, only the values of the new dimensions count. -/
theorem FitsSpread.congr [Platform] {source target other : Shape} (fits : FitsSpread source target)
    (agree : Agree target other) : FitsSpread source other where
  laidOut := fits.laidOut
  gathered := fits.gathered
  listed nonempty := agree.forall_value (rounded · < memoryLimit) (fits.listed nonempty)
  broadcast := ⟨agree.length_eq ▸ fits.broadcast.axes, agree.extent_eq ▸ fits.broadcast.extent⟩
  stored := agree.size_eq ▸ fits.stored

/-- Two steps within the limits come to one. -/
theorem FitsSpread.trans [Platform] {source middle target : Shape} {axes : List Nat}
    (fits : FitsSpread source middle) (later : FitsSpread middle target) (along : Fits source middle axes) :
    FitsSpread source target where
  laidOut := fits.laidOut
  gathered := fits.gathered
  listed nonempty := by
    apply later.listed
    rintro rfl
    have noAxes : axes = [] := List.eq_nil_iff_forall_not_mem.2 fun axis member =>
      absurd (along.lt_length axis member) (Nat.not_lt_zero axis)
    exact nonempty (List.eq_nil_of_length_eq_zero (along.length_eq ▸ noAxes ▸ rfl))
  broadcast := later.broadcast
  stored := later.stored

end Shape

namespace Tensor

variable {α : Type}

/-- A reshape that changes something returns when the elements fit through the arrays. -/
theorem reshape_eq_pull [Platform] {tensor : Tensor α} {target : Shape} {axes : List Whole}
    (nonnegative : ∀ axis ∈ axes, 0 ≤ axis.value) (fits : Fits tensor.shape target (axisNumbers axes))
    (changed : ¬tensor.Unchanged target (axisNumbers axes))
    (within : Shape.FitsSpread tensor.shape target) (typed : tensor.shape.Numeric)
    (typedTarget : target.Numeric) :
    tensor.reshape (target.map Count.toWhole) axes = .ok (tensor.pull target (axisNumbers axes) fits) := by
  rw [reshape_of_fits nonnegative fits, if_neg changed,
    (Shape.checkSpread_decides _ _).ok within ⟨typed, typedTarget⟩]
  rfl

/-- Reading through two maps, one after the other, is reading through the composed one. -/
theorem pull_pull (tensor : Tensor α) {middle target : Shape} {first second : List Nat}
    (fits : Fits tensor.shape middle first) (later : Fits middle target second) :
    (tensor.pull middle first fits).pull target second later =
      tensor.pull target (followed first second) (fits.followed later) := by
  apply ext_get (by rfl)
  intro index within _
  have inside : ∀ axis ∈ first, axis < second.length := fun axis member =>
    later.length_eq ▸ fits.lt_length axis member
  calc ((tensor.pull middle first fits).pull target second later).get index within
    _ = (tensor.pull middle first fits).get _ (within_pull later within) := get_pull _ _ _ _ _ _
    _ = tensor.get _ (within_pull fits (within_pull later within)) := get_pull _ _ _ _ _ _
    _ = tensor.get _ (within_pull (fits.followed later) within) :=
        tensor.get_congr (Index.pull_followed inside index) _
    _ = (tensor.pull target _ (fits.followed later)).get index within := (get_pull _ _ _ _ _ _).symm

/-- Reading through a map that changes nothing. -/
theorem pull_of_unchanged {tensor : Tensor α} {target : Shape} {axes : List Nat}
    (fits : Fits tensor.shape target axes) (same : target = tensor.shape)
    (isIdentity : axes = List.range tensor.order) : tensor.pull target axes fits = tensor := by
  subst same isIdentity
  apply ext_get (by rfl)
  intro index _ within
  have isSame : Index.pull (List.range tensor.order) index = index := by
    rw [order, ← Shape.length_eq_of_within within, pull_range]
  exact (get_pull _ _ _ _ _ within).trans (tensor.get_congr isSame _)

/-- The axis map of two reshapes: for each axis, what the second map says about the axis that the first one
leads to. -/
def composed (first second : List Whole) : List Whole :=
  first.map fun axis => second.getD axis.value.toNat 0

/-- The axes of a composed map are followed through both maps. -/
theorem axisNumbers_composed (first second : List Whole) :
    axisNumbers (composed first second) = followed (axisNumbers first) (axisNumbers second) := by
  have isZero : (0 : Whole).value.toNat = 0 := rfl
  simp only [axisNumbers, composed, followed, List.map_map]
  apply List.map_congr_left
  intro axis _
  simp only [Function.comp, List.getD_eq_getElem?_getD, List.getElem?_map]
  cases second[axis.value.toNat]? <;> rfl

theorem nonnegative_composed {first second : List Whole} (nonnegative : ∀ axis ∈ second, 0 ≤ axis.value) :
    ∀ axis ∈ composed first second, 0 ≤ axis.value := by
  intro axis member
  obtain ⟨place, -, rfl⟩ := List.mem_map.1 member
  rw [List.getD_eq_getElem?_getD]
  cases isAxis : second[place.value.toNat]? with
  | none => decide
  | some found => exact nonnegative found (List.mem_of_getElem? isAxis)

/-- Behind a step that changes nothing, the composed map is the second one. -/
theorem composed_of_range {first second : List Whole} {order : Nat}
    (isIdentity : axisNumbers first = List.range order) (counted : second.length = order) :
    composed first second = second := by
  have isLength : first.length = order := by simpa [axisNumbers] using congrArg List.length isIdentity
  apply List.ext_getElem (by simp [composed, isLength, counted])
  intro place inside bound
  have here : first[place].value.toNat = place := by
    have found := congrArg (·[place]?) isIdentity
    have below : place < first.length := by simpa [composed] using inside
    simpa [axisNumbers, below, counted ▸ bound] using found
  simp [composed, here, bound]

/-- Reading through equal maps. -/
theorem pull_congr (tensor : Tensor α) {target : Shape} {axes other : List Nat}
    (fits : Fits tensor.shape target axes) (same : axes = other) :
    tensor.pull target axes fits = tensor.pull target other (same ▸ fits) := by
  subst same
  rfl

/-- A shape that is not given in numbers only has a truth value in it. -/
theorem exists_truth {shape : Shape} (untyped : ¬shape.Numeric) :
    ∃ value, .truth value ∈ shape.map Count.toWhole := by
  simp only [Shape.Numeric, not_forall] at untyped
  obtain ⟨dimension, member, untyped⟩ := untyped
  cases dimension with
  | number => exact absurd trivial untyped
  | truth value => exact ⟨value, List.mem_map_of_mem member⟩

section Steps

variable {tensor : Tensor α} {between target : Shape} {axes lastAxes : List Whole}

/-- Behind a step that changes nothing, the composed map is taken alone. -/
theorem composed_of_unchanged (unchanged : tensor.Unchanged between (axisNumbers axes))
    (later : Fits tensor.shape target (axisNumbers lastAxes)) : composed axes lastAxes = lastAxes :=
  composed_of_range unchanged.2 (by simpa [axisNumbers, order] using later.length_eq)

/-- Before a step that changes nothing, the composed step does what the first one does, as long as its
dimensions are numbers. -/
theorem reshape_composed_unchanged [Platform] (nonnegative : ∀ axis ∈ lastAxes, 0 ≤ axis.value)
    (fits : Fits tensor.shape between (axisNumbers axes))
    (changed : ¬tensor.Unchanged between (axisNumbers axes))
    (within : Shape.FitsSpread tensor.shape between) (typed : tensor.shape.Numeric)
    (typedBetween : between.Numeric) (later : Fits between target (axisNumbers lastAxes))
    (unchanged : (tensor.pull between (axisNumbers axes) fits).Unchanged target (axisNumbers lastAxes)) :
    tensor.reshape (target.map Count.toWhole) (composed axes lastAxes) =
      if target.Numeric then .ok (tensor.pull between (axisNumbers axes) fits) else .error .wrongType := by
  obtain ⟨agree, isRange⟩ := unchanged
  have isFirst : axisNumbers (composed axes lastAxes) = axisNumbers axes := by
    rw [axisNumbers_composed, isRange]
    exact followed_range_right fits.lt_length
  have composedFits : Fits tensor.shape target (axisNumbers (composed axes lastAxes)) := by
    rw [axisNumbers_composed]
    exact fits.followed later
  have composedChanged : ¬tensor.Unchanged target (axisNumbers (composed axes lastAxes)) := by
    rintro ⟨agreeSource, isIdentity⟩
    exact changed ⟨agree.symm.trans agreeSource, isFirst ▸ isIdentity⟩
  have withinTarget := within.congr agree.symm
  by_cases typedTarget : target.Numeric
  · rw [if_pos typedTarget, reshape_eq_pull (nonnegative_composed nonnegative) composedFits composedChanged
      withinTarget typed typedTarget]
    obtain rfl : target = between := agree.eq_of_numeric typedTarget typedBetween
    exact congrArg Except.ok (tensor.pull_congr composedFits isFirst)
  · rw [if_neg typedTarget, reshape_of_untyped (nonnegative_composed nonnegative) composedFits
      composedChanged withinTarget fun both => typedTarget both.2]

/-- Two steps that both change something. -/
theorem reshape_composed_changed [Platform] (nonnegative : ∀ axis ∈ lastAxes, 0 ≤ axis.value)
    (fits : Fits tensor.shape between (axisNumbers axes))
    (within : Shape.FitsSpread tensor.shape between) (typed : tensor.shape.Numeric)
    (later : Fits between target (axisNumbers lastAxes))
    (withinLast : Shape.FitsSpread between target) (typedTarget : target.Numeric) :
    tensor.reshape (target.map Count.toWhole) (composed axes lastAxes) =
      .ok ((tensor.pull between (axisNumbers axes) fits).pull target (axisNumbers lastAxes) later) := by
  have isComposed := axisNumbers_composed axes lastAxes
  have composedFits : Fits tensor.shape target (axisNumbers (composed axes lastAxes)) :=
    isComposed ▸ fits.followed later
  have isPull := (tensor.pull_pull fits later).trans
    (tensor.pull_congr (fits.followed later) isComposed.symm)
  by_cases unchanged : tensor.Unchanged target (axisNumbers (composed axes lastAxes))
  · rw [reshape_of_fits (nonnegative_composed nonnegative) composedFits, if_pos unchanged, isPull,
      pull_of_unchanged composedFits (unchanged.1.eq_of_numeric typedTarget typed) unchanged.2]
  · rw [reshape_eq_pull (nonnegative_composed nonnegative) composedFits unchanged
      (within.trans withinLast fits) typed typedTarget, isPull]

end Steps

/-- One step after another returns what the composed step returns.  A truth value among the last dimensions
goes unnoticed where the last step changes nothing, while the composed one refuses it. -/
theorem reshape_composed [Platform] {tensor middle result : Tensor α}
    {dimensions axes lastDimensions lastAxes : List Whole}
    (first : tensor.reshape dimensions axes = .ok middle)
    (second : middle.reshape lastDimensions lastAxes = .ok result) :
    tensor.reshape lastDimensions (composed axes lastAxes) = .ok result ∨
      tensor.reshape lastDimensions (composed axes lastAxes) = .error .wrongType ∧
        ∃ value, .truth value ∈ lastDimensions := by
  obtain ⟨between, fits, rfl, nonnegative, firstStep⟩ := reshape_cases first
  obtain ⟨target, later, rfl, lastNonnegative, lastStep⟩ := reshape_cases second
  rcases firstStep with ⟨unchanged, rfl⟩ | ⟨changed, within, typed, typedBetween, rfl⟩
  · rw [composed_of_unchanged unchanged later]
    exact .inl second
  · rcases lastStep with ⟨unchanged, rfl⟩ | ⟨_, withinLast, _, typedTarget, rfl⟩
    · have composite := reshape_composed_unchanged lastNonnegative fits changed within typed typedBetween
        later unchanged
      by_cases typedTarget : target.Numeric
      · exact .inl (composite.trans (if_pos typedTarget))
      · exact .inr ⟨composite.trans (if_neg typedTarget), exists_truth typedTarget⟩
    · exact .inl (reshape_composed_changed lastNonnegative fits within typed later withinLast typedTarget)

/-! ## Transpositions -/

/-- The axis map of a transposition. -/
def transposition {order : Nat} (permutation : Equiv.Perm (Fin order)) : List Whole :=
  List.ofFn fun axis => .number (permutation axis).val

section Transpositions

variable {order : Nat} (permutation : Equiv.Perm (Fin order))

theorem axisNumbers_transposition :
    axisNumbers (transposition permutation) = List.ofFn fun axis => (permutation axis).val := by
  rw [axisNumbers, transposition, List.map_ofFn]
  rfl

theorem nonnegative_transposition : ∀ axis ∈ transposition permutation, 0 ≤ axis.value := by
  intro axis member
  obtain ⟨place, rfl⟩ := List.mem_ofFn.1 member
  exact Int.natCast_nonneg _

/-- A transposition and the one back lead every axis to itself. -/
theorem followed_transposition :
    followed (axisNumbers (transposition permutation)) (axisNumbers (transposition permutation.symm)) =
      List.range order := by
  rw [axisNumbers_transposition, axisNumbers_transposition]
  apply List.ext_getElem (by simp [followed])
  intro place inside bound
  simp [followed]

variable {source target : Shape}

/-- The dimensions of a transposed shape, in the order of the axes they come from. -/
theorem values_transposition (sourceLength : source.length = order)
    (fits : Fits source target (axisNumbers (transposition permutation))) (axis : Fin order) :
    target.values[(permutation axis).val]? = source.values[axis.val]? := by
  rw [← fits.values_getD (sourceLength ▸ axis.isLt), axisNumbers_transposition]
  simp

/-- The transposition back fits. -/
theorem fits_transposition_symm (sourceLength : source.length = order) (targetLength : target.length = order)
    (fits : Fits source target (axisNumbers (transposition permutation))) :
    Fits target source (axisNumbers (transposition permutation.symm)) := by
  rw [axisNumbers_transposition]
  refine fits_iff.2 ⟨by simp [targetLength], fun place axis dimension isAxis isDimension => ?_⟩
  obtain ⟨inside, rfl⟩ := List.getElem?_eq_some_iff.1 isAxis
  have below : place < order := by simpa using inside
  have there := values_transposition permutation sourceLength fits (permutation.symm ⟨place, below⟩)
  rw [Equiv.apply_symm_apply, isDimension] at there
  simpa using there.symm

/-- The dimensions of a shape, axis by axis. -/
theorem values_eq_ofFn {shape : Shape} (isLength : shape.length = order) :
    shape.values = List.ofFn fun axis : Fin order => shape.values.getD axis.val 0 := by
  apply List.ext_getElem (by simp [Shape.values, isLength])
  intro place inside bound
  simp [List.getD_eq_getElem?_getD, inside]

/-- The size is the product of the dimensions. -/
theorem size_eq_prod (shape : Shape) : shape.size = shape.values.prod := by
  induction shape with
  | nil => rfl
  | cons dimension shape hypothesis =>
      rw [Shape.size, hypothesis, Shape.values, Shape.values, List.map_cons, List.prod_cons]

/-- A transposed shape has the same size. -/
theorem size_transposition (sourceLength : source.length = order) (targetLength : target.length = order)
    (fits : Fits source target (axisNumbers (transposition permutation))) :
    source.size = target.size := by
  have same : (fun axis : Fin order => source.values.getD axis.val 0) =
      (fun axis : Fin order => target.values.getD axis.val 0) ∘ permutation := by
    funext axis
    simp [List.getD_eq_getElem?_getD, values_transposition permutation sourceLength fits]
  rw [size_eq_prod, size_eq_prod, values_eq_ofFn sourceLength, values_eq_ofFn targetLength, same]
  exact (Equiv.Perm.ofFn_comp_perm permutation _).prod_eq

/-- The transposition back is within the limits. -/
theorem fitsSpread_transposition [Platform] (sourceLength : source.length = order)
    (targetLength : target.length = order)
    (fits : Fits source target (axisNumbers (transposition permutation)))
    (within : Shape.FitsSpread source target) : Shape.FitsSpread target source := by
  have nonempty (isTarget : target ≠ []) : source ≠ [] := fun isNil => isTarget
    (List.eq_nil_of_length_eq_zero (by rw [targetLength, ← sourceLength, isNil, List.length_nil]))
  refine ⟨within.broadcast, fun isTarget => ?_, fun isTarget dimension member => ?_, within.laidOut, ?_⟩
  · rw [targetLength, ← sourceLength]
    exact within.gathered (nonempty isTarget)
  · obtain ⟨place, inside, rfl⟩ := List.getElem_of_mem member
    have there := values_transposition permutation sourceLength fits ⟨place, sourceLength ▸ inside⟩
    rw [Shape.getElem?_values.2 ⟨_, List.getElem?_eq_getElem inside, rfl⟩] at there
    obtain ⟨found, isFound, same⟩ := Shape.getElem?_values.1 there
    exact same ▸ within.listed (nonempty isTarget) found (List.mem_of_getElem? isFound)
  · rw [size_transposition permutation sourceLength targetLength fits]
    exact within.stored

/-- A transposition that changes nothing, and the one back. -/
theorem symm_eq_range (isRange : axisNumbers (transposition permutation) = List.range order) :
    axisNumbers (transposition permutation.symm) = List.range order := by
  have back := followed_transposition permutation
  rwa [isRange, followed_range (by simp [axisNumbers_transposition])] at back

/-- Transposing a tensor and back returns the tensor. -/
theorem reshape_transposition [Platform] {tensor middle : Tensor α} {dimensions : List Whole}
    (permutation : Equiv.Perm (Fin tensor.order)) (counted : dimensions.length = tensor.order)
    (there : tensor.reshape dimensions (transposition permutation) = .ok middle) :
    middle.reshape (tensor.shape.map Count.toWhole) (transposition permutation.symm) = .ok tensor := by
  obtain ⟨between, fits, rfl, -, step⟩ := reshape_cases there
  have betweenLength : between.length = tensor.order := by simpa using counted
  have back := fits_transposition_symm permutation rfl betweenLength fits
  have nonnegative := nonnegative_transposition permutation.symm
  rcases step with ⟨unchanged, rfl⟩ | ⟨changed, within, typed, typedBetween, rfl⟩
  · have isRange := symm_eq_range permutation unchanged.2
    have stays : Fits middle.shape middle.shape (axisNumbers (transposition permutation.symm)) :=
      isRange ▸ Fits.range middle.shape
    rw [reshape_of_fits nonnegative stays, if_pos ⟨Shape.Agree.refl _, isRange⟩]
  · have stillChanged : ¬(tensor.pull between _ fits).Unchanged tensor.shape
        (axisNumbers (transposition permutation.symm)) := by
      rintro ⟨agree, isRange⟩
      have isOrder : (tensor.pull between _ fits).order = tensor.order := betweenLength
      exact changed ⟨agree.symm, symm_eq_range permutation.symm (isRange.trans (congrArg _ isOrder))⟩
    have withinBack := fitsSpread_transposition permutation rfl betweenLength fits within
    calc (tensor.pull between _ fits).reshape _ _
      _ = .ok ((tensor.pull between _ fits).pull tensor.shape _ back) :=
          reshape_eq_pull nonnegative back stillChanged withinBack typedBetween typed
      _ = .ok tensor := congrArg Except.ok ((tensor.pull_pull fits back).trans
          (pull_of_unchanged (fits.followed back) rfl (followed_transposition permutation)))

end Transpositions

/-- **Reshapes compose.**  Where two reshapes, one after the other, return, the composed one returns the same
tensor, or refuses a truth value among the last dimensions.  Transposing a tensor by a permutation and back
returns the tensor. -/
theorem reshape_composes [Platform] (tensor : Tensor α) :
    (∀ (middle result : Tensor α) (dimensions axes lastDimensions lastAxes : List Whole),
      tensor.reshape dimensions axes = .ok middle →
      middle.reshape lastDimensions lastAxes = .ok result →
        tensor.reshape lastDimensions (composed axes lastAxes) = .ok result ∨
          tensor.reshape lastDimensions (composed axes lastAxes) = .error .wrongType ∧
            ∃ value, .truth value ∈ lastDimensions) ∧
    ∀ (permutation : Equiv.Perm (Fin tensor.order)) (dimensions : List Whole) (middle : Tensor α),
      dimensions.length = tensor.order →
      tensor.reshape dimensions (transposition permutation) = .ok middle →
        middle.reshape (tensor.shape.map Count.toWhole) (transposition permutation.symm) = .ok tensor :=
  ⟨fun _ _ _ _ _ _ first second => reshape_composed first second,
    fun permutation _ _ counted there => reshape_transposition permutation counted there⟩

attribute [local instance] Platform.usual in
/-- The diagonal of a matrix is repeated along a new axis, and transposed. -/
theorem reshape_composes_diagonal :
    ∃ middle result : Tensor Nat,
      (ofList [2, 2] [1, 2, 3, 4] rfl).reshape [2, 3] [0, 0] = .ok middle ∧
        middle.reshape [3, 2] [1, 0] = .ok result ∧
          (ofList [2, 2] [1, 2, 3, 4] rfl).reshape [3, 2] [1, 1] = .ok result := by
  have first : (ofList [2, 2] [1, 2, 3, 4] rfl).reshape [2, 3] [0, 0] =
      .ok (ofList [2, 3] [1, 4, 1, 4, 1, 4] rfl) := by rfl
  have second : (ofList [2, 3] [1, 4, 1, 4, 1, 4] rfl).reshape [3, 2] [1, 0] =
      .ok (ofList [3, 2] [1, 1, 1, 4, 4, 4] rfl) := by rfl
  have composite := (reshape_composes _).1 _ _ _ _ _ _ first second
  rcases composite with same | ⟨-, value, member⟩
  · exact ⟨_, _, first, second, same⟩
  · simp at member

attribute [local instance] Platform.usual in
/-- A vector of one element is given a truth value for its dimension, which changes nothing; its element
alone cannot be spread over that dimension. -/
theorem reshape_composes_truth :
    (scalar 7).reshape [1] [] = .ok (vector [7]) ∧
      (vector [7]).reshape [.truth true] [0] = .ok (vector [7]) ∧
        (scalar 7).reshape [.truth true] (composed [] [0]) = .error .wrongType :=
  ⟨rfl, rfl, rfl⟩

end Tensor

end TensorLogic
