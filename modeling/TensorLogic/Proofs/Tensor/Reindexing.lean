/-
Module: TensorLogic.Proofs.Tensor.Reindexing
Purpose: Which reshapes are possible, and that a reshape re-indexes a tensor point by point.
Main exports: Tensor.Reshapes, Tensor.reshape_cases, Tensor.exists_reshape_iff, Tensor.reshape_pointwise
-/
import TensorLogic.Proofs.Tensor.Capacity
import TensorLogic.Proofs.Tensor.Locating

namespace TensorLogic

/-!
A reshape is asked for in whole numbers: the dimensions of the new shape and, for each axis of the tensor,
the axis of the new shape that it goes to.  Such a request is fulfilled when the map fits, in which case the
element at an index is found at the coordinates that the map picks out of it, or else refused as a wrong
value.  Only the arrays that the elements pass through can come between: they have limits, and they take
no truth value for a dimension.
-/

/-- An index, given as data. -/
def Index.data (index : Index) : List Datum := index.map fun (coordinate : Nat) => .int coordinate

namespace Shape

/-- An index within a shape is located at itself. -/
theorem locate_data {shape : Shape} {index : Index} (within : Within index shape) :
    shape.locate index.data = .ok ⟨index, within⟩ := by
  have given : index.data = (index.map fun (coordinate : Nat) => Whole.number coordinate).map .ofWhole := by
    rw [List.map_map]
    rfl
  have named : index.Named (index.map fun (coordinate : Nat) => Whole.number coordinate) := by
    rw [Index.Named, List.map_map]
    rfl
  rw [given, locate_named within named]

/-- Shapes without truth values are equal where they agree. -/
theorem Agree.eq_of_numeric {left right : Shape} (agree : Agree left right) (isLeft : left.Numeric)
    (isRight : right.Numeric) : left = right := by
  induction left generalizing right with
  | nil =>
      cases right with
      | nil => rfl
      | cons => simp [Agree, values] at agree
  | cons dimension left hypothesis =>
      cases right with
      | nil => simp [Agree, values] at agree
      | cons other right =>
          simp only [Agree, values, List.map_cons, List.cons.injEq] at agree
          have rest := hypothesis agree.2 (fun member listed => isLeft member (by simp [listed]))
            fun member listed => isRight member (by simp [listed])
          have here : dimension = other := by
            cases dimension with
            | truth => exact (isLeft _ List.mem_cons_self).elim
            | number number =>
                cases other with
                | truth => exact (isRight _ List.mem_cons_self).elim
                | number => exact congrArg Count.number agree.1
          rw [here, rest]

/-- Whole numbers are read as a shape exactly when none is negative, and it is given in the same way. -/
theorem ofWholes_eq_ok {dimensions : List Whole} {shape : Shape} :
    ofWholes dimensions = .ok shape ↔ dimensions = shape.map Count.toWhole := by
  constructor
  · intro read
    unfold ofWholes at read
    split at read
    · next found isFound =>
        obtain rfl := Except.ok.inj read
        clear read
        induction dimensions generalizing found with
        | nil =>
            obtain rfl := Option.some.inj isFound
            rfl
        | cons dimension dimensions hypothesis =>
            simp only [List.mapM_cons, Option.bind_eq_bind, Option.bind_eq_some_iff] at isFound
            obtain ⟨count, isCount, rest, isRest, made⟩ := isFound
            obtain rfl := Option.some.inj made
            rw [List.map_cons, ← hypothesis rest isRest, Whole.count?_eq_some_iff.1 isCount]
    · cases read
  · rintro rfl
    exact ofWholes_toWhole shape

theorem exists_ofWholes {dimensions : List Whole}
    (nonnegative : ∀ dimension ∈ dimensions, 0 ≤ dimension.value) :
    ∃ shape : Shape, dimensions = shape.map Count.toWhole := by
  induction dimensions with
  | nil => exact ⟨[], rfl⟩
  | cons dimension dimensions hypothesis =>
      obtain ⟨shape, rfl⟩ := hypothesis fun other member => nonnegative other (by simp [member])
      rcases Whole.exists_count (nonnegative dimension List.mem_cons_self) with ⟨count, rfl⟩
      exact ⟨count :: shape, rfl⟩

theorem getElem?_values {shape : Shape} {axis value : Nat} :
    shape.values[axis]? = some value ↔
      ∃ dimension, shape[axis]? = some dimension ∧ dimension.value = value := by
  simp [values]

end Shape

/-- An axis map fits when it has one entry for each axis, the number of an axis of the same dimension. -/
theorem fits_iff {source target : Shape} {axes : List Nat} :
    Fits source target axes ↔ axes.length = source.length ∧
      ∀ place axis dimension : Nat, axes[place]? = some axis →
        source.values[place]? = some dimension → target.values[axis]? = some dimension := by
  constructor
  · intro fits
    have lengths := congrArg List.length fits
    refine ⟨by simpa [Shape.values] using lengths, fun place axis dimension isAxis isDimension => ?_⟩
    have here := congrArg (·[place]?) fits
    simpa only [List.getElem?_map, isAxis, isDimension, Option.map_some, Option.some.injEq] using here
  · rintro ⟨counted, same⟩
    apply List.ext_getElem?
    intro place
    have lengths : axes.length = source.values.length := by simpa [Shape.values] using counted
    by_cases inside : place < axes.length
    · have isAxis := List.getElem?_eq_getElem inside
      have isDimension := List.getElem?_eq_getElem (lengths ▸ inside)
      simp only [List.getElem?_map, isAxis, isDimension, Option.map_some]
      exact congrArg some (same _ _ _ isAxis isDimension)
    · simp only [List.getElem?_map, List.getElem?_eq_none (Nat.le_of_not_lt inside),
        List.getElem?_eq_none (lengths ▸ Nat.le_of_not_lt inside), Option.map_none]

namespace Tensor

variable {α : Type}

/-- An element is found at its index. -/
theorem lookup_data (tensor : Tensor α) {index : Index} (within : Within index tensor.shape) :
    tensor.lookup index.data = .ok (tensor.get index within) := by
  unfold lookup
  rw [Shape.locate_data within]
  rfl

/-- A reshape that can be asked for: no dimension is negative, the map has one entry for each axis, and each
entry is the number of an axis of the new shape, of the same dimension. -/
structure Reshapes (source : Shape) (dimensions axes : List Whole) : Prop where
  nonnegative : ∀ dimension ∈ dimensions, 0 ≤ dimension.value
  counted : axes.length = source.length
  valid : ∀ axis ∈ axes, 0 ≤ axis.value ∧ axis.value < dimensions.length
  same : ∀ (place : Nat) (axis wanted : Whole) (dimension : Count), axes[place]? = some axis →
    dimensions[axis.value.toNat]? = some wanted → source[place]? = some dimension →
      wanted.value = dimension.value

theorem getElem?_axisNumbers {axes : List Whole} {place axis : Nat} :
    (axisNumbers axes)[place]? = some axis ↔
      ∃ whole, axes[place]? = some whole ∧ whole.value.toNat = axis := by
  simp [axisNumbers]

/-- The request is fulfilled by a map that fits. -/
theorem reshapes_iff {source : Shape} {dimensions axes : List Whole} :
    Reshapes source dimensions axes ↔ ∃ target : Shape, dimensions = target.map Count.toWhole ∧
      (∀ axis ∈ axes, 0 ≤ axis.value) ∧ Fits source target (axisNumbers axes) := by
  constructor
  · intro asked
    obtain ⟨target, rfl⟩ := Shape.exists_ofWholes asked.nonnegative
    refine ⟨target, rfl, fun axis member => (asked.valid axis member).1, fits_iff.2 ⟨?_, ?_⟩⟩
    · simpa [axisNumbers] using asked.counted
    · intro place axis dimension isAxis isDimension
      obtain ⟨whole, isWhole, rfl⟩ := getElem?_axisNumbers.1 isAxis
      obtain ⟨found, isFound, rfl⟩ := Shape.getElem?_values.1 isDimension
      have bounds := asked.valid whole (List.mem_of_getElem? isWhole)
      have inside : whole.value.toNat < target.length := by
        have below : whole.value < target.length := by simpa using bounds.2
        omega
      have isWanted := List.getElem?_eq_getElem inside
      have same := asked.same place whole _ found isWhole (by rw [List.getElem?_map, isWanted]; rfl) isFound
      rw [Count.value_toWhole] at same
      exact Shape.getElem?_values.2 ⟨_, isWanted, Int.ofNat_inj.1 same⟩
  · rintro ⟨target, rfl, nonnegative, fits⟩
    obtain ⟨counted, same⟩ := fits_iff.1 fits
    have lengths : axes.length = source.length := by simpa [axisNumbers] using counted
    constructor
    · intro dimension member
      obtain ⟨count, -, rfl⟩ := List.mem_map.1 member
      simp
    · exact lengths
    · intro axis member
      obtain ⟨place, inside, rfl⟩ := List.getElem_of_mem member
      have isAxis := getElem?_axisNumbers.2 ⟨_, List.getElem?_eq_getElem inside, rfl⟩
      have isDimension := Shape.getElem?_values.2 ⟨_, List.getElem?_eq_getElem (lengths ▸ inside), rfl⟩
      obtain ⟨found, isFound, -⟩ := Shape.getElem?_values.1 (same place _ _ isAxis isDimension)
      have below := (List.getElem?_eq_some_iff.1 isFound).1
      have bound := nonnegative _ member
      rw [List.length_map]
      exact ⟨bound, by omega⟩
    · intro place axis wanted dimension isAxis isWanted isDimension
      have isNumber := getElem?_axisNumbers.2 ⟨axis, isAxis, rfl⟩
      obtain ⟨found, isFound, equal⟩ := Shape.getElem?_values.1
        (same place _ _ isNumber (Shape.getElem?_values.2 ⟨_, isDimension, rfl⟩))
      rw [List.getElem?_map, isFound] at isWanted
      obtain rfl := Option.some.inj isWanted
      rw [Count.value_toWhole, equal]

/-- Everything else is refused as a wrong value. -/
theorem reshape_of_not_reshapes [Platform] {tensor : Tensor α} {dimensions axes : List Whole}
    (refused : ¬Reshapes tensor.shape dimensions axes) :
    ∃ fault, tensor.reshape dimensions axes = .error fault ∧ fault.category = .value := by
  cases read : Shape.ofWholes dimensions with
  | error fault =>
      refine ⟨fault, by simp [reshape, read, bind, Except.bind], ?_⟩
      unfold Shape.ofWholes at read
      split at read
      · cases read
      · obtain rfl := Except.error.inj read
        rfl
  | ok target =>
      by_cases counted : axes.length = tensor.shape.length
      · cases checked : axisFault? axes target 0 axes tensor.shape with
        | some fault => exact ⟨fault, reshape_of_fault read counted checked, category_of_axisFault? checked⟩
        | none =>
            have fits := (axisFault?_eq_none counted).1 checked
            exact absurd (reshapes_iff.2 ⟨target, Shape.ofWholes_eq_ok.1 read, fits⟩) refused
      · exact ⟨_, reshape_of_length read counted, rfl⟩

/-- What returns from a reshape, and how: nothing has changed, or the elements have gone through arrays. -/
theorem reshape_cases [Platform] {tensor result : Tensor α} {dimensions axes : List Whole}
    (reshaped : tensor.reshape dimensions axes = .ok result) :
    ∃ (target : Shape) (fits : Fits tensor.shape target (axisNumbers axes)),
      dimensions = target.map Count.toWhole ∧ (∀ axis ∈ axes, 0 ≤ axis.value) ∧
      (tensor.Unchanged target (axisNumbers axes) ∧ result = tensor ∨
        ¬tensor.Unchanged target (axisNumbers axes) ∧ Shape.FitsSpread tensor.shape target ∧
          tensor.shape.Numeric ∧ target.Numeric ∧
          result = tensor.pull target (axisNumbers axes) fits) := by
  have asked : Reshapes tensor.shape dimensions axes := by
    by_contra refused
    obtain ⟨fault, isFault, -⟩ := reshape_of_not_reshapes refused
    cases isFault.symm.trans reshaped
  obtain ⟨target, rfl, nonnegative, fits⟩ := reshapes_iff.1 asked
  refine ⟨target, fits, rfl, nonnegative, ?_⟩
  rw [reshape_of_fits nonnegative fits] at reshaped
  by_cases unchanged : tensor.Unchanged target (axisNumbers axes)
  · rw [if_pos unchanged] at reshaped
    exact .inl ⟨unchanged, (Except.ok.inj reshaped).symm⟩
  · rw [if_neg unchanged] at reshaped
    cases checked : Shape.checkSpread tensor.shape target with
    | error fault =>
        rw [checked] at reshaped
        cases reshaped
    | ok =>
        rw [checked] at reshaped
        obtain ⟨within, typed, typedTarget⟩ := (Shape.checkSpread_decides _ _).accepted checked
        exact .inr ⟨unchanged, within, typed, typedTarget, (Except.ok.inj reshaped).symm⟩

/-- A request that a map fulfils returns when nothing changes, or when the elements fit through the arrays. -/
theorem exists_reshape_iff [Platform] {tensor : Tensor α} {target : Shape} {axes : List Whole}
    (nonnegative : ∀ axis ∈ axes, 0 ≤ axis.value) (fits : Fits tensor.shape target (axisNumbers axes)) :
    (∃ result, tensor.reshape (target.map Count.toWhole) axes = .ok result) ↔
      tensor.Unchanged target (axisNumbers axes) ∨ Shape.FitsSpread tensor.shape target ∧
        tensor.shape.Numeric ∧ target.Numeric := by
  rw [reshape_of_fits nonnegative fits]
  constructor
  · rintro ⟨result, reshaped⟩
    by_cases unchanged : tensor.Unchanged target (axisNumbers axes)
    · exact .inl unchanged
    · rw [if_neg unchanged] at reshaped
      cases checked : Shape.checkSpread tensor.shape target with
      | error fault =>
          rw [checked] at reshaped
          cases reshaped
      | ok => exact .inr ((Shape.checkSpread_decides _ _).accepted checked)
  · rintro (unchanged | ⟨within, typed⟩)
    · exact ⟨tensor, if_pos unchanged⟩
    · rw [(Shape.checkSpread_decides _ _).ok within typed]
      split
      · exact ⟨_, rfl⟩
      · exact ⟨_, rfl⟩

/-- A truth value among the dimensions is refused as a wrong type, unless nothing changes. -/
theorem reshape_of_untyped [Platform] {tensor : Tensor α} {target : Shape} {axes : List Whole}
    (nonnegative : ∀ axis ∈ axes, 0 ≤ axis.value) (fits : Fits tensor.shape target (axisNumbers axes))
    (changed : ¬tensor.Unchanged target (axisNumbers axes)) (within : Shape.FitsSpread tensor.shape target)
    (untyped : ¬(tensor.shape.Numeric ∧ target.Numeric)) :
    tensor.reshape (target.map Count.toWhole) axes = .error .wrongType := by
  rw [reshape_of_fits nonnegative fits, if_neg changed,
    (Shape.checkSpread_decides _ _).wrongType within untyped]
  rfl

/-- A tensor of some shape reads its elements from another one through an axis map. -/
structure ReadsThrough (result source : Tensor α) (target : Shape) (axes : List Nat) : Prop where
  shape : Shape.Agree result.shape target
  elements : ∀ index, Within index target → ∃ element,
    result.lookup index.data = .ok element ∧ source.lookup (Index.pull axes index).data = .ok element

theorem readsThrough_pull (tensor : Tensor α) {target : Shape} {axes : List Nat}
    (fits : Fits tensor.shape target axes) :
    (tensor.pull target axes fits).ReadsThrough tensor target axes where
  shape := Shape.Agree.refl target
  elements index within := by
    refine ⟨_, lookup_data _ within, ?_⟩
    rw [get_pull]
    exact tensor.lookup_data (within_pull fits within)

theorem Unchanged.readsThrough {tensor : Tensor α} {target : Shape} {axes : List Nat}
    (unchanged : tensor.Unchanged target axes) : tensor.ReadsThrough tensor target axes where
  shape := unchanged.1.symm
  elements index within := by
    have inside := unchanged.1.within_iff.1 within
    have isSame : Index.pull axes index = index := by
      rw [unchanged.2, order, ← Shape.length_eq_of_within inside, pull_range]
    exact ⟨_, tensor.lookup_data inside, isSame.symm ▸ tensor.lookup_data inside⟩

/-- What returns from a reshape reads its elements through the map. -/
theorem readsThrough_of_reshape [Platform] {tensor result : Tensor α} {target : Shape} {axes : List Whole}
    (reshaped : tensor.reshape (target.map Count.toWhole) axes = .ok result) :
    result.ReadsThrough tensor target (axisNumbers axes) := by
  obtain ⟨found, fits, same, -, step⟩ := reshape_cases reshaped
  obtain rfl : target = found :=
    Except.ok.inj ((Shape.ofWholes_toWhole target).symm.trans (Shape.ofWholes_eq_ok.2 same))
  rcases step with ⟨unchanged, rfl⟩ | ⟨-, -, -, -, rfl⟩
  · exact unchanged.readsThrough
  · exact tensor.readsThrough_pull fits

/-- **A reshape re-indexes point by point.**  What cannot be asked for is refused as a wrong value.
Everything else returns, provided that nothing changes, or that the elements go through the arrays that they
are rearranged in: the shapes are within the limits, and no dimension is a truth value.  What returns has
the dimensions asked for, and at every index the element at the coordinates that the map picks out.  A truth
value among the dimensions is refused as a wrong type. -/
theorem reshape_pointwise [Platform] (tensor : Tensor α) (dimensions axes : List Whole) :
    (¬Reshapes tensor.shape dimensions axes →
      ∃ fault, tensor.reshape dimensions axes = .error fault ∧ fault.category = .value) ∧
    (Reshapes tensor.shape dimensions axes → ∃ target : Shape, dimensions = target.map Count.toWhole ∧
      ((∃ result, tensor.reshape dimensions axes = .ok result) ↔
        tensor.Unchanged target (axisNumbers axes) ∨ Shape.FitsSpread tensor.shape target ∧
          tensor.shape.Numeric ∧ target.Numeric) ∧
      (∀ result, tensor.reshape dimensions axes = .ok result →
        result.ReadsThrough tensor target (axisNumbers axes)) ∧
      (¬tensor.Unchanged target (axisNumbers axes) → Shape.FitsSpread tensor.shape target →
        ¬(tensor.shape.Numeric ∧ target.Numeric) →
          tensor.reshape dimensions axes = .error .wrongType)) := by
  refine ⟨reshape_of_not_reshapes, fun asked => ?_⟩
  obtain ⟨target, rfl, nonnegative, fits⟩ := reshapes_iff.1 asked
  exact ⟨target, rfl, exists_reshape_iff nonnegative fits, fun _ => readsThrough_of_reshape,
    reshape_of_untyped nonnegative fits⟩

attribute [local instance] Platform.usual in
/-- The diagonal of a matrix, repeated along a new axis. -/
theorem reshape_pointwise_diagonal :
    Reshapes [2, 2] [2, 3] [0, 0] ∧ ∃ result : Tensor Nat,
      (ofList [2, 2] [1, 2, 3, 4] rfl).reshape [2, 3] [0, 0] = .ok result ∧
        result.lookup (Index.data [1, 2]) = .ok 4 := by
  have asked : Reshapes [2, 2] [2, 3] [0, 0] :=
    reshapes_iff.2 ⟨[2, 3], rfl, by decide, by decide⟩
  have within : Shape.FitsSpread [2, 2] [2, 3] :=
    ⟨⟨by decide, by decide⟩, by decide, by decide +kernel, ⟨by decide, by decide⟩, by decide⟩
  obtain ⟨target, isTarget, returns, pointwise, -⟩ :=
    (reshape_pointwise (ofList [2, 2] [1, 2, 3, 4] rfl) [2, 3] [0, 0]).2 asked
  obtain rfl : [2, 3] = target := Except.ok.inj (Shape.ofWholes_eq_ok.2 isTarget)
  obtain ⟨result, isResult⟩ := returns.2 (.inr ⟨within, by decide, by decide⟩)
  obtain ⟨element, found, source⟩ := (pointwise result isResult).elements [1, 2] (by decide)
  obtain rfl : 4 = element := Except.ok.inj source
  exact ⟨asked, result, isResult, found⟩

attribute [local instance] Platform.usual in
/-- A dimension may be given as a truth value, which counts as one or as zero; but nothing is spread over
it. -/
theorem reshape_truth :
    Reshapes [] [.truth true] [] ∧ Shape.FitsSpread [] [.truth true] ∧
      (scalar 7).reshape [.truth true] [] = .error .wrongType :=
  ⟨reshapes_iff.2 ⟨[.truth true], rfl, by decide, by decide⟩,
    ⟨⟨by decide, by decide⟩, by decide, by decide, ⟨by decide, by decide⟩, by decide⟩, rfl⟩

end Tensor

end TensorLogic
