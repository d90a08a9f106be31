/-
Module: TensorLogic.Proofs.Tensor.Diagonal
Purpose: Spreading a tensor along its diagonals is converse to taking them.
Main exports: Tensor.Agreeing, Tensor.agreeing_iff, Tensor.SpreadAlong, Tensor.exists_diagonal,
  Tensor.diagonal_converse
-/
import TensorLogic.Proofs.Tensor.Composition
import TensorLogic.Proofs.Tensor.Generating

namespace TensorLogic

/-!
An index of the spread tensor is read axis by axis, and each of its coordinates sets one on the axes of the
tensor.  Where they all agree, the index is pulled back from the coordinates that are set in the end, since
every axis is listed; where they do not, it stands for nothing.
-/

namespace Tensor

variable {α : Type}

/-- An index has the same coordinate on all axes that come from the same one. -/
def Agreeing (axes : List Nat) (index : Index) : Prop :=
  ∀ first second : Nat, axes[first]? = axes[second]? → index[first]? = index[second]?

/-! ## Settling coordinates -/

/-- Setting a coordinate sets it on its axis, if there is such an axis, and leaves the others. -/
theorem getD_set {coordinates : List Int} {axis other : Nat} {coordinate : Int} :
    (coordinates.set axis coordinate).getD other (-1) =
      if axis = other ∧ axis < coordinates.length then coordinate else coordinates.getD other (-1) := by
  simp only [List.getD_eq_getElem?_getD, List.getElem?_set]
  by_cases same : axis = other
  · subst same
    by_cases inside : axis < coordinates.length
    · simp [inside]
    · simp [inside]
  · simp [same]

/-- What is settled keeps the coordinates that were set, and has set those of the index. -/
theorem settle_sound {axes : List Nat} {index : Index} {coordinates settled : List Int}
    (isSettled : settle axes index coordinates = some settled) :
    settled.length = coordinates.length ∧
      (∀ axis, coordinates.getD axis (-1) ≠ -1 → settled.getD axis (-1) = coordinates.getD axis (-1)) ∧
      ∀ place axis coordinate : Nat, axes[place]? = some axis → index[place]? = some coordinate →
        axis < coordinates.length → settled.getD axis (-1) = coordinate := by
  induction axes generalizing index coordinates with
  | nil =>
      obtain rfl : coordinates = settled := by simpa [settle] using isSettled
      simp
  | cons axis axes hypothesis =>
      cases index with
      | nil =>
          obtain rfl : coordinates = settled := by simpa [settle] using isSettled
          simp
      | cons coordinate index =>
          unfold settle at isSettled
          split at isSettled
          · next unset =>
              obtain ⟨isLength, keeps, sets⟩ := hypothesis isSettled
              rw [List.length_set] at isLength sets
              refine ⟨isLength, fun other isSet => ?_, fun place other found isAxis isFound inside => ?_⟩
              · have different : axis ≠ other := fun same => isSet (same ▸ unset)
                have kept := keeps other
                rw [getD_set, if_neg (different ·.1)] at kept
                exact kept isSet
              · cases place with
                | zero =>
                    obtain rfl := Option.some.inj isAxis
                    obtain rfl := Option.some.inj isFound
                    have kept := keeps axis
                    rw [getD_set, if_pos ⟨rfl, inside⟩] at kept
                    exact kept (by omega)
                | succ place => exact sets place other found isAxis isFound inside
          · next isSet =>
              split at isSettled
              · next agrees =>
                  obtain ⟨isLength, keeps, sets⟩ := hypothesis isSettled
                  refine ⟨isLength, keeps, fun place other found isAxis isFound inside => ?_⟩
                  cases place with
                  | zero =>
                      obtain rfl := Option.some.inj isAxis
                      obtain rfl := Option.some.inj isFound
                      exact (keeps axis isSet).trans agrees
                  | succ place => exact sets place other found isAxis isFound inside
              · cases isSettled

/-- Coordinates that are set as an index has them can be settled further with what is pulled back from it. -/
theorem settle_complete {axes : List Nat} {place : Index} {coordinates : List Int}
    (partly : ∀ axis, coordinates.getD axis (-1) ≠ -1 → coordinates.getD axis (-1) = place.getD axis 0) :
    ∃ settled, settle axes (Index.pull axes place) coordinates = some settled := by
  induction axes generalizing coordinates with
  | nil => exact ⟨coordinates, rfl⟩
  | cons axis axes hypothesis =>
      unfold Index.pull
      rw [List.map_cons]
      unfold settle
      split
      · apply hypothesis
        intro other isSet
        rw [getD_set] at isSet ⊢
        split at isSet
        · next same => rw [if_pos same, same.1]
        · next different =>
            rw [if_neg different]
            exact partly other isSet
      · next isSet =>
          rw [if_pos (partly axis isSet)]
          exact hypothesis partly

/-- A list that is made axis by axis has the value of the function on each of them. -/
theorem getD_map_range {function : Nat → Nat} {order axis : Nat} (inside : axis < order) :
    ((List.range order).map function).getD axis 0 = function axis := by
  simp [List.getD_eq_getElem?_getD, inside]

section Covered

variable {axes : List Nat} {order : Nat}

/-- The coordinates that an index is pulled back from can be read off the index. -/
theorem exists_coordinate {index : Index} (covers : ∀ axis < order, axis ∈ axes)
    (counted : index.length = axes.length) {axis : Nat} (inside : axis < order) :
    ∃ place coordinate : Nat, axes[place]? = some axis ∧ index[place]? = some coordinate := by
  obtain ⟨place, bound, rfl⟩ := List.getElem_of_mem (covers axis inside)
  exact ⟨place, _, List.getElem?_eq_getElem bound, List.getElem?_eq_getElem (counted ▸ bound)⟩

/-- Where every axis is listed, only one index is pulled back to another. -/
theorem pull_injective (covers : ∀ axis < order, axis ∈ axes) {place other : Index}
    (isLength : place.length = order) (otherLength : other.length = order)
    (same : Index.pull axes place = Index.pull axes other) : place = other := by
  apply List.ext_getElem (isLength.trans otherLength.symm)
  intro axis inside bound
  obtain ⟨slot, listed, isAxis⟩ := List.getElem_of_mem (covers axis (isLength ▸ inside))
  have here := congrArg (·[slot]?) same
  simpa [Index.pull, List.getElem?_eq_getElem listed, isAxis, inside, bound] using here

/-- What settles an index has been pulled back to it. -/
theorem exists_place_of_settle (covers : ∀ axis < order, axis ∈ axes) (valid : ∀ axis ∈ axes, axis < order)
    {index : Index} {settled : List Int} (counted : index.length = axes.length)
    (isSettled : settle axes index (List.replicate order (-1)) = some settled) :
    ∃ place : Index, place.length = order ∧ Index.pull axes place = index ∧
      settled = place.map fun (coordinate : Nat) => (coordinate : Int) := by
  obtain ⟨isLength, -, sets⟩ := settle_sound isSettled
  rw [List.length_replicate] at isLength sets
  refine ⟨(List.range order).map fun axis => (settled.getD axis (-1)).toNat, by simp, ?_, ?_⟩
  · apply List.ext_getElem (by simp [Index.pull, counted])
    intro place inside bound
    have listed : place < axes.length := counted ▸ bound
    have below := valid _ (List.getElem_mem listed)
    have here := sets place _ _ (List.getElem?_eq_getElem listed) (List.getElem?_eq_getElem bound) below
    simp only [Index.pull, List.getElem_map, getD_map_range below, here, Int.toNat_natCast]
  · apply List.ext_getElem (by simp [isLength])
    intro axis inside bound
    have below : axis < order := isLength ▸ inside
    obtain ⟨place, coordinate, isAxis, isCoordinate⟩ := exists_coordinate covers counted below
    have here := sets place axis coordinate isAxis isCoordinate below
    have read : settled[axis] = settled.getD axis (-1) := by simp [List.getD_eq_getElem?_getD, inside]
    simp only [read, List.getElem_map, List.getElem_range, here, Int.toNat_natCast]

/-- An index that coordinates are pulled back to is settled by them. -/
theorem settle_pull (covers : ∀ axis < order, axis ∈ axes) (valid : ∀ axis ∈ axes, axis < order)
    {place : Index} (isLength : place.length = order) :
    settle axes (Index.pull axes place) (List.replicate order (-1)) =
      some (place.map fun (coordinate : Nat) => (coordinate : Int)) := by
  have unset : ∀ axis, (List.replicate order (-1 : Int)).getD axis (-1) = -1 := fun axis => by
    rw [List.getD_eq_getElem?_getD, List.getElem?_replicate]
    split <;> rfl
  obtain ⟨settled, isSettled⟩ : ∃ settled,
      settle axes (Index.pull axes place) (List.replicate order (-1)) = some settled :=
    settle_complete fun axis isSet => absurd (unset axis) isSet
  obtain ⟨other, otherLength, same, rfl⟩ :=
    exists_place_of_settle covers valid (by simp [Index.pull]) isSettled
  rw [isSettled, pull_injective covers otherLength isLength same]

/-- An index agrees with itself exactly when coordinates are pulled back to it. -/
theorem agreeing_iff (valid : ∀ axis ∈ axes, axis < order)
    {index : Index} (counted : index.length = axes.length) :
    Agreeing axes index ↔ ∃ place : Index, place.length = order ∧ Index.pull axes place = index := by
  constructor
  · intro agreeing
    refine ⟨(List.range order).map fun axis => index.getD (axes.idxOf axis) 0, by simp, ?_⟩
    apply List.ext_getElem (by simp [Index.pull, counted])
    intro slot inside bound
    have listed : slot < axes.length := counted ▸ bound
    have member := List.getElem_mem listed
    have first := List.idxOf_lt_length_of_mem member
    have same := agreeing (axes.idxOf axes[slot]) slot (by simp [first, listed])
    simp only [Index.pull, List.getElem_map, getD_map_range (valid _ member)]
    rw [List.getD_eq_getElem?_getD, same, List.getElem?_eq_getElem bound, Option.getD_some]
  · rintro ⟨place, -, rfl⟩ first second same
    simp [Index.pull, same]

end Covered

/-! ## The elements on and off the diagonals -/

variable {tensor : Tensor α} {axes : List Whole}

theorem Covers.nonnegative (covers : tensor.Covers axes) : ∀ axis ∈ axes, 0 ≤ axis.value :=
  fun axis member => (covers.1 axis member).1

/-- The axes of a covering map are axes of the tensor. -/
theorem Covers.valid (covers : tensor.Covers axes) : ∀ axis ∈ axisNumbers axes, axis < tensor.order := by
  intro axis member
  obtain ⟨whole, isWhole, rfl⟩ := List.mem_map.1 member
  have bounds := covers.1 whole isWhole
  omega

/-- The shape of a tensor that is spread along its diagonals. -/
def spreadShape (tensor : Tensor α) (axes : List Nat) : Shape :=
  axes.map fun axis => tensor.shape.getD axis 0

/-- The map fits the way back. -/
theorem Covers.fits (covers : tensor.Covers axes) :
    Fits (tensor.spreadShape (axisNumbers axes)) tensor.shape (axisNumbers axes) := by
  rw [Fits, spreadShape, Shape.values, Shape.values, List.map_map, List.map_map]
  apply List.map_congr_left
  intro axis member
  have inside : axis < tensor.shape.length := covers.valid axis member
  simp [List.getD_eq_getElem?_getD, inside]

/-- An index lies within a shape when each coordinate is less than the dimension of its axis. -/
theorem within_iff_forall {index : Index} {shape : Shape} :
    Within index shape ↔ index.length = shape.length ∧
      ∀ axis coordinate dimension : Nat, index[axis]? = some coordinate →
        shape.values[axis]? = some dimension → coordinate < dimension := by
  induction shape generalizing index with
  | nil => cases index <;> simp [Within]
  | cons first shape hypothesis =>
      cases index with
      | nil => simp [Within]
      | cons coordinate index =>
          constructor
          · rintro ⟨here, later⟩
            obtain ⟨counted, each⟩ := hypothesis.1 later
            refine ⟨congrArg Nat.succ counted, fun axis found dimension isFound isDimension => ?_⟩
            cases axis with
            | zero =>
                obtain rfl := Option.some.inj isFound
                obtain rfl := Option.some.inj isDimension
                exact here
            | succ axis => exact each axis found dimension isFound isDimension
          · rintro ⟨counted, each⟩
            exact ⟨each 0 _ _ rfl rfl, hypothesis.2 ⟨Nat.succ.inj counted, fun axis => each (axis + 1)⟩⟩

/-- Coordinates that are pulled back to an index within the spread shape lie within the shape. -/
theorem Covers.within (covers : tensor.Covers axes) {place : Index} (isLength : place.length = tensor.order)
    (within : Within (Index.pull (axisNumbers axes) place) (tensor.spreadShape (axisNumbers axes))) :
    Within place tensor.shape := by
  refine within_iff_forall.2 ⟨isLength, fun axis coordinate dimension isCoordinate isDimension => ?_⟩
  have inside : axis < tensor.order := isLength ▸ (List.getElem?_eq_some_iff.1 isCoordinate).1
  obtain ⟨slot, listed, isAxis⟩ := List.getElem_of_mem (covers.2 axis inside)
  have found : (axisNumbers axes)[slot]? = some axis := isAxis ▸ List.getElem?_eq_getElem listed
  apply (within_iff_forall.1 within).2 slot
  · simp [Index.pull, found, List.getD_eq_getElem?_getD, isCoordinate]
  · have fits := congrArg (·[slot]?) covers.fits
    simp only [List.getElem?_map, found, Option.map_some, isDimension] at fits
    simpa using fits.symm

/-- On the diagonal stands the element whose place is spread to the index. -/
theorem diagonalElement_pull (covers : tensor.Covers axes) (default : α) {place : Index}
    (within : Within place tensor.shape) :
    tensor.diagonalElement (axisNumbers axes) default (Index.pull (axisNumbers axes) place) =
      .ok (tensor.get place within) := by
  have isLength : place.length = tensor.order := Shape.length_eq_of_within within
  unfold diagonalElement
  rw [settle_pull covers.2 covers.valid isLength]
  simp only [List.map_map]
  exact tensor.lookup_data within

/-- Off the diagonal, where repeated coordinates disagree, stands the default. -/
theorem diagonalElement_of_disagreeing (covers : tensor.Covers axes) (default : α) {index : Index}
    (counted : index.length = (axisNumbers axes).length) (disagreeing : ¬Agreeing (axisNumbers axes) index) :
    tensor.diagonalElement (axisNumbers axes) default index = .ok default := by
  unfold diagonalElement
  cases isSettled : settle (axisNumbers axes) index (List.replicate tensor.order (-1)) with
  | none => rfl
  | some settled =>
      obtain ⟨place, isLength, pulled, -⟩ := exists_place_of_settle covers.2 covers.valid counted isSettled
      exact absurd ((agreeing_iff covers.valid counted).2 ⟨place, isLength, pulled⟩) disagreeing

/-- A tensor is spread along the diagonals of another one: at an index that agrees with itself it has the
element at the coordinates that the index is pulled back from, and a given one everywhere else. -/
structure SpreadAlong (spread source : Tensor α) (axes : List Nat) (default : α) : Prop where
  shape : spread.shape = source.spreadShape axes
  agreeing : ∀ index, Within index spread.shape → Agreeing axes index → ∃ place,
    Within place source.shape ∧ Index.pull axes place = index ∧
      spread.lookup index.data = source.lookup place.data
  disagreeing : ∀ index, Within index spread.shape → ¬Agreeing axes index →
    spread.lookup index.data = .ok default

/-- The spread tensor has the dimensions of the tensor, some of them several times. -/
theorem Covers.mem_spreadShape (covers : tensor.Covers axes) {dimension : Count} :
    dimension ∈ tensor.spreadShape (axisNumbers axes) ↔ dimension ∈ tensor.shape := by
  simp only [spreadShape, List.mem_map]
  constructor
  · rintro ⟨axis, member, rfl⟩
    have inside : axis < tensor.shape.length := covers.valid axis member
    simp [List.getD_eq_getElem?_getD, inside]
  · intro member
    obtain ⟨axis, inside, rfl⟩ := List.getElem_of_mem member
    exact ⟨axis, covers.2 axis inside, by simp [List.getD_eq_getElem?_getD, inside]⟩

/-- A covering map repeats dimensions and leaves none out, so that all of them can be listed before and
after or neither time. -/
theorem Covers.listable_iff [Platform] (covers : tensor.Covers axes) :
    (tensor.spreadShape (axisNumbers axes)).Listable ↔ tensor.shape.Listable :=
  forall_congr' fun _ => imp_congr_left covers.mem_spreadShape

/-- A covering map leaves no dimension out, so that they are numbers before and after or neither time. -/
theorem Covers.numeric_iff (covers : tensor.Covers axes) :
    (tensor.spreadShape (axisNumbers axes)).Numeric ↔ tensor.shape.Numeric :=
  forall_congr' fun _ => imp_congr_left covers.mem_spreadShape

/-- The coordinates are listed first, and then the tensor is generated. -/
theorem diagonal_of_covers [Platform] (covers : tensor.Covers axes) (default : α) :
    tensor.diagonal axes default =
      (Shape.checkRanges ((tensor.spreadShape (axisNumbers axes)).map Count.toWhole) >>= fun _ =>
        generateM (tensor.spreadShape (axisNumbers axes))
          (tensor.diagonalElement (axisNumbers axes) default)) :=
  if_pos covers

theorem Covers.length_eq (covers : tensor.Covers axes) {index : Index}
    (within : Within index (tensor.spreadShape (axisNumbers axes))) :
    index.length = (axisNumbers axes).length :=
  (Shape.length_eq_of_within within).trans covers.fits.length_eq.symm

/-- An index within the spread shape that agrees with itself is pulled back from one within the shape. -/
theorem Covers.exists_place (covers : tensor.Covers axes) {index : Index}
    (within : Within index (tensor.spreadShape (axisNumbers axes)))
    (agreeing : Agreeing (axisNumbers axes) index) :
    ∃ place, Within place tensor.shape ∧ Index.pull (axisNumbers axes) place = index := by
  obtain ⟨place, isLength, rfl⟩ := (agreeing_iff covers.valid (covers.length_eq within)).1 agreeing
  exact ⟨place, covers.within isLength within, rfl⟩

/-- A tensor can be spread along its diagonals when the coordinates on its axes can be listed. -/
theorem exists_diagonal [Platform] (covers : tensor.Covers axes) (listable : tensor.shape.Listable)
    (default : α) :
    ∃ spread, tensor.diagonal axes default = .ok spread ∧
      spread.SpreadAlong tensor (axisNumbers axes) default := by
  have listed := Shape.checkRanges_eq_ok.2 (covers.listable_iff.2 listable)
  have each : ∀ index, Within index (tensor.spreadShape (axisNumbers axes)) →
      ∃ element, tensor.diagonalElement (axisNumbers axes) default index = .ok element := by
    intro index within
    by_cases agreeing : Agreeing (axisNumbers axes) index
    · obtain ⟨place, inside, rfl⟩ := covers.exists_place within agreeing
      exact ⟨_, diagonalElement_pull covers default inside⟩
    · exact ⟨_, diagonalElement_of_disagreeing covers default (covers.length_eq within) agreeing⟩
  obtain ⟨spread, generated, isShape, elements⟩ := exists_generateM each
  refine ⟨spread, ?_, isShape, ?_, ?_⟩
  · rw [diagonal_of_covers covers, listed]
    exact generated
  · intro index within agreeing
    rw [isShape] at within
    obtain ⟨place, inside, rfl⟩ := covers.exists_place within agreeing
    refine ⟨place, inside, rfl, ?_⟩
    rw [elements _ within, diagonalElement_pull covers default inside, tensor.lookup_data inside]
  · intro index within disagreeing
    rw [isShape] at within
    rw [elements _ within,
      diagonalElement_of_disagreeing covers default (covers.length_eq within) disagreeing]

/-- Nothing but coordinates that cannot be listed keeps a covered tensor from being spread. -/
theorem diagonal_of_unlistable [Platform] (covers : tensor.Covers axes) (unlistable : ¬tensor.shape.Listable)
    (default : α) : ∃ fault, tensor.diagonal axes default = .error fault ∧ fault.category ≠ .value := by
  rw [diagonal_of_covers covers]
  cases refused : Shape.checkRanges ((tensor.spreadShape (axisNumbers axes)).map Count.toWhole) with
  | error fault => exact ⟨fault, rfl, Shape.category_of_checkRanges refused⟩
  | ok => exact absurd (covers.listable_iff.1 (Shape.checkRanges_eq_ok.1 refused)) unlistable

/-- A tensor is refused as a wrong value exactly when the map does not cover its axes. -/
theorem diagonal_refused_iff [Platform] (default : α) :
    (∃ fault, tensor.diagonal axes default = .error fault ∧ fault.category = .value) ↔
      ¬tensor.Covers axes := by
  constructor
  · rintro ⟨fault, refused, isValue⟩ covers
    by_cases listable : tensor.shape.Listable
    · obtain ⟨spread, isSpread, -⟩ := exists_diagonal covers listable default
      cases isSpread.symm.trans refused
    · obtain ⟨other, isOther, notValue⟩ := diagonal_of_unlistable covers listable default
      obtain rfl := Except.error.inj (isOther.symm.trans refused)
      exact notValue isValue
  · intro uncovered
    exact ⟨_, if_neg uncovered, rfl⟩

/-- A tensor that is spread along the diagonals of another one can be read back: it has the elements of that
one on the diagonals. -/
theorem SpreadAlong.get_pull {spread : Tensor α} {default : α} (covers : tensor.Covers axes)
    (along : spread.SpreadAlong tensor (axisNumbers axes) default) {place : Index}
    (within : Within place tensor.shape)
    (inside : Within (Index.pull (axisNumbers axes) place) spread.shape) :
    spread.get (Index.pull (axisNumbers axes) place) inside = tensor.get place within := by
  have isLength : place.length = tensor.order := Shape.length_eq_of_within within
  have agreeing : Agreeing (axisNumbers axes) (Index.pull (axisNumbers axes) place) :=
    (agreeing_iff covers.valid (by simp [Index.pull])).2 ⟨place, isLength, rfl⟩
  obtain ⟨other, inOther, same, found⟩ := along.agreeing _ inside agreeing
  obtain rfl := pull_injective covers.2 (Shape.length_eq_of_within inOther) isLength same
  rw [spread.lookup_data inside, tensor.lookup_data within] at found
  exact Except.ok.inj found

/-- Spreading along a map that sends each axis to itself changes no dimension. -/
theorem spreadShape_range (tensor : Tensor α) :
    tensor.spreadShape (List.range tensor.order) = tensor.shape := by
  apply List.ext_getElem (by simp [spreadShape, order])
  intro axis inside bound
  simp [spreadShape, List.getD_eq_getElem?_getD, bound]

/-- Taking the diagonals of a tensor that is spread along them gives the tensor back. -/
theorem SpreadAlong.reshape_eq [Platform] {spread result : Tensor α} {default : α}
    (covers : tensor.Covers axes) (along : spread.SpreadAlong tensor (axisNumbers axes) default)
    (reshaped : spread.reshape (tensor.shape.map Count.toWhole) axes = .ok result) : result = tensor := by
  have fits : Fits spread.shape tensor.shape (axisNumbers axes) := along.shape ▸ covers.fits
  have back : spread.pull tensor.shape (axisNumbers axes) fits = tensor := by
    apply ext_get (by rfl)
    intro place _ within
    exact (Tensor.get_pull _ _ _ _ _ within).trans (along.get_pull covers within _)
  obtain ⟨target, _, same, -, step⟩ := reshape_cases reshaped
  obtain rfl : tensor.shape = target :=
    Except.ok.inj ((Shape.ofWholes_toWhole _).symm.trans (Shape.ofWholes_eq_ok.2 same))
  rcases step with ⟨unchanged, rfl⟩ | ⟨-, -, -, -, rfl⟩
  · have sameOrder : result.order = tensor.order := unchanged.1.length_eq.symm
    have sameShape : tensor.shape = result.shape := by
      rw [along.shape, unchanged.2, sameOrder, spreadShape_range]
    rw [← back, pull_of_unchanged fits sameShape unchanged.2]
  · exact back

/-- A tensor whose diagonals have been taken, spread along them again: its elements on the diagonals stay,
and all others are replaced. -/
theorem diagonal_of_reshape [Platform] {result : Tensor α} {dimensions : List Whole} (default : α)
    (reshaped : tensor.reshape dimensions axes = .ok result) (covers : result.Covers axes)
    (listable : tensor.shape.Listable) :
    ∃ spread, result.diagonal axes default = .ok spread ∧ Shape.Agree spread.shape tensor.shape ∧
      ∀ index, Within index tensor.shape →
        (Agreeing (axisNumbers axes) index → spread.lookup index.data = tensor.lookup index.data) ∧
        (¬Agreeing (axisNumbers axes) index → spread.lookup index.data = .ok default) := by
  obtain ⟨target, fits, rfl, -, -⟩ := reshape_cases reshaped
  have reads := readsThrough_of_reshape reshaped
  have sameValues : Shape.Agree (result.spreadShape (axisNumbers axes)) tensor.shape := by
    have spread := covers.fits
    rw [Fits, show result.shape.values = target.values from reads.shape, fits] at spread
    exact (List.map_injective_iff.2 (Option.some_injective _) spread).symm
  have listableResult : result.shape.Listable :=
    covers.listable_iff.1 (Shape.Agree.forall_value sameValues.symm (· < memoryLimit) listable)
  obtain ⟨spread, isSpread, along⟩ := exists_diagonal covers listableResult default
  have sameShape : Shape.Agree spread.shape tensor.shape := along.shape ▸ sameValues
  refine ⟨spread, isSpread, sameShape, fun index within => ⟨fun agreeing => ?_, ?_⟩⟩
  · obtain ⟨place, inside, rfl, found⟩ := along.agreeing index (sameShape.within_iff.2 within) agreeing
    obtain ⟨element, isElement, isSource⟩ := reads.elements place (reads.shape.within_iff.1 inside)
    rw [found, isElement, isSource]
  · exact along.disagreeing index (sameShape.within_iff.2 within)

/-- A covered tensor is spread exactly when the coordinates on its axes can be listed. -/
theorem exists_diagonal_iff [Platform] (covers : tensor.Covers axes) (default : α) :
    (∃ spread, tensor.diagonal axes default = .ok spread) ↔ tensor.shape.Listable := by
  constructor
  · rintro ⟨spread, isSpread⟩
    by_contra unlistable
    obtain ⟨fault, isFault, -⟩ := diagonal_of_unlistable covers unlistable default
    cases isFault.symm.trans isSpread
  · intro listable
    obtain ⟨spread, isSpread, -⟩ := exists_diagonal covers listable default
    exact ⟨spread, isSpread⟩

/-- What is taken as a diagonal is spread along its axes. -/
theorem spreadAlong_of_diagonal [Platform] {spread : Tensor α} {default : α} (covers : tensor.Covers axes)
    (isSpread : tensor.diagonal axes default = .ok spread) :
    spread.SpreadAlong tensor (axisNumbers axes) default := by
  have listable := (exists_diagonal_iff covers default).1 ⟨spread, isSpread⟩
  obtain ⟨found, isFound, along⟩ := exists_diagonal covers listable default
  obtain rfl := Except.ok.inj (isFound.symm.trans isSpread)
  exact along

/-- The diagonals of a spread tensor, all dimensions of which are numbers, can be taken when that changes
nothing, or when its elements fit through the arrays. -/
theorem SpreadAlong.exists_reshape_iff [Platform] {spread : Tensor α} {default : α}
    (covers : tensor.Covers axes) (along : spread.SpreadAlong tensor (axisNumbers axes) default)
    (typed : tensor.shape.Numeric) :
    (∃ result, spread.reshape (tensor.shape.map Count.toWhole) axes = .ok result) ↔
      spread.Unchanged tensor.shape (axisNumbers axes) ∨
        Shape.FitsSpread spread.shape tensor.shape := by
  have typedSpread : spread.shape.Numeric := along.shape ▸ covers.numeric_iff.2 typed
  rw [Tensor.exists_reshape_iff covers.nonnegative (along.shape ▸ covers.fits),
    and_iff_left ⟨typedSpread, typed⟩]

/-- **Spreading along diagonals and taking them are converse.**  A tensor is refused as a wrong value exactly
when the map does not cover its axes.  Where it does, the tensor is spread as soon as the coordinates on its
axes can be listed, and taking the diagonals gives the tensor back; with numbers for dimensions they can be
taken as far as the elements fit through the arrays.  Where diagonals have been taken, spreading along them
leaves the elements there as they were, and replaces all others. -/
theorem diagonal_converse [Platform] (tensor : Tensor α) (axes : List Whole) (default : α) :
    ((∃ fault, tensor.diagonal axes default = .error fault ∧ fault.category = .value) ↔
      ¬tensor.Covers axes) ∧
    (tensor.Covers axes →
      ((∃ spread, tensor.diagonal axes default = .ok spread) ↔ tensor.shape.Listable) ∧
      ∀ spread, tensor.diagonal axes default = .ok spread →
        spread.SpreadAlong tensor (axisNumbers axes) default ∧
        (∀ result, spread.reshape (tensor.shape.map Count.toWhole) axes = .ok result → result = tensor) ∧
        (tensor.shape.Numeric →
          ((∃ result, spread.reshape (tensor.shape.map Count.toWhole) axes = .ok result) ↔
            spread.Unchanged tensor.shape (axisNumbers axes) ∨
              Shape.FitsSpread spread.shape tensor.shape))) ∧
    ∀ dimensions result, tensor.reshape dimensions axes = .ok result → result.Covers axes →
      tensor.shape.Listable → ∃ spread, result.diagonal axes default = .ok spread ∧
        Shape.Agree spread.shape tensor.shape ∧ ∀ index, Within index tensor.shape →
          (Agreeing (axisNumbers axes) index → spread.lookup index.data = tensor.lookup index.data) ∧
          (¬Agreeing (axisNumbers axes) index → spread.lookup index.data = .ok default) := by
  refine ⟨diagonal_refused_iff default, fun covers => ?_,
    fun _ _ reshaped => diagonal_of_reshape default reshaped⟩
  refine ⟨exists_diagonal_iff covers default, fun spread isSpread => ?_⟩
  have along := spreadAlong_of_diagonal covers isSpread
  exact ⟨along, fun _ => along.reshape_eq covers, along.exists_reshape_iff covers⟩

attribute [local instance] Platform.usual in
/-- A vector on the diagonal of a matrix, and taken from there again. -/
theorem diagonal_converse_matrix :
    (vector [1, 2]).Covers [0, 0] ∧ ∃ spread : Tensor Nat,
      (vector [1, 2]).diagonal [0, 0] 0 = .ok spread ∧ spread.lookup (Index.data [0, 1]) = .ok 0 ∧
        spread.reshape [2] [0, 0] = .ok (vector [1, 2]) := by
  have covers : (vector [1, 2]).Covers [0, 0] := by decide
  obtain ⟨-, onto, -⟩ := diagonal_converse (vector [1, 2]) [0, 0] 0
  obtain ⟨spreads, back⟩ := onto covers
  obtain ⟨spread, isSpread⟩ := spreads.2 (by decide)
  obtain ⟨along, returned, returns⟩ := back spread isSpread
  have isShape : spread.shape = [2, 2] := along.shape
  have disagreeing : ¬Agreeing [0, 0] [0, 1] := fun agreeing => by simpa using agreeing 0 1 rfl
  have within : Shape.FitsSpread spread.shape [2] := isShape ▸
    ⟨⟨by decide, by decide⟩, by decide, by decide +kernel, ⟨by decide, by decide⟩, by decide⟩
  obtain ⟨result, isResult⟩ := (returns (by decide)).2 (.inr within)
  obtain rfl := returned result isResult
  exact ⟨covers, spread, isSpread, along.disagreeing [0, 1] (isShape ▸ by decide) disagreeing, isResult⟩

attribute [local instance] Platform.usual in
/-- One element on the diagonal of a tensor with more axes than an array can have is not found there
again. -/
theorem diagonal_crowded :
    (vector [5]).Covers (List.replicate 65 0) ∧
      ∃ spread : Tensor Nat, (vector [5]).diagonal (List.replicate 65 0) 0 = .ok spread ∧
        spread.reshape [1] (List.replicate 65 0) = .error (.tooManyAxes 64 65) :=
  ⟨by decide, ofList (List.replicate 65 1) [5] (by decide), rfl, rfl⟩

end Tensor

end TensorLogic
