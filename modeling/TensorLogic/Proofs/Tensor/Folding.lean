/-
Module: TensorLogic.Proofs.Tensor.Folding
Purpose: Folding the leading axes calls the function on the columns of a tensor, and can be done in steps.
Main exports: Tensor.IsColumn, Tensor.forall₂_columns, Tensor.map_fold, Tensor.FoldsTo,
  Tensor.fold_eq_ok_iff, Tensor.fold_bind_fold, Truth.foldTensor_bind, Tensor.Folding, Tensor.folding
-/
import TensorLogic.Algebra.Pointwise
import TensorLogic.Proofs.Algebra.Truth
import TensorLogic.Proofs.Tensor.Generating

namespace TensorLogic

/-!
A column of a tensor lists the elements that share their trailing coordinates, over all leading coordinates
in storage order.  The columns stand one after the other in the storage, so a fold cuts the storage into
pieces of equal length and calls its function on each piece.  A longer piece is made up of shorter ones,
which is why the leading axes can be folded in several steps.
-/

/-- Relations that are the same at the members of a list relate the same lists to it. -/
theorem forall₂_congr_left {α β : Type} {Relation Other : α → β → Prop} {members : List α}
    (same : ∀ member ∈ members, ∀ result, Relation member result ↔ Other member result)
    {results : List β} :
    List.Forall₂ Relation members results ↔ List.Forall₂ Other members results := by
  induction members generalizing results with
  | nil => simp
  | cons member members hypothesis =>
      have rest := fun others => @hypothesis
        (fun other listed => same other (List.mem_cons_of_mem _ listed)) others
      simp [List.forall₂_cons_left_iff, same member List.mem_cons_self, rest]

namespace Tensor

variable {α β : Type} {tensor : Tensor α} {count : Nat}

/-- A slice is cut out of the elements. -/
theorem slice_eq_take (tensor : Tensor α) (length place : Nat) :
    tensor.slice length place = (tensor.toList.drop (place * length)).take length := by
  have extent : (place + 1) * length - place * length = length := by
    simp [Nat.succ_mul]
  simp [slice, toList, List.extract_eq_take_drop, extent]

/-! ## Columns -/

/-- Whether members are the elements of a tensor at some trailing coordinates, listed for all coordinates
on the leading axes in storage order. -/
def IsColumn (tensor : Tensor α) (count : Nat) (trailing : Index) (members : List α) : Prop :=
  List.Forall₂ (fun (leading : Index) member => tensor.lookup (Index.data (leading ++ trailing)) = .ok member)
    (Shape.indices (tensor.shape.take count)) members

/-- A piece of the storage lists the elements at some trailing coordinates. -/
theorem forall₂_slice {lead rest : Shape} (isShape : tensor.shape = lead ++ rest) {trailing : Index}
    (within : Within trailing rest) :
    List.Forall₂ (fun (leading : Index) member =>
        tensor.lookup (Index.data (leading ++ trailing)) = .ok member)
      lead.indices (tensor.slice lead.size (rest.position trailing)) := by
  have enough : (rest.position trailing + 1) * lead.size ≤ tensor.toList.length := by
    rw [length_toList, isShape, Shape.size_append, Nat.mul_comm]
    exact Nat.mul_le_mul_left _ (Shape.position_lt within)
  have counted : (tensor.slice lead.size (rest.position trailing)).length = lead.size := by
    simp only [Nat.succ_mul] at enough
    simp only [slice_eq_take, List.length_take, List.length_drop]
    omega
  rw [Shape.indices, List.forall₂_map_left_iff, List.forall₂_iff_get]
  constructor
  · rw [List.length_range, counted]
  · intro place inRange inSlice
    have bound : place < lead.size := counted ▸ inSlice
    have first := Shape.within_index bound
    have both : Within (lead.index place ++ trailing) tensor.shape := by
      rw [isShape]
      exact (Shape.within_append first).2 within
    rw [List.get_eq_getElem, List.getElem_range, lookup_eq_ok_iff both, isShape,
      Shape.position_append first, Shape.position_index bound, Nat.add_comm, Nat.mul_comm]
    simp [slice_eq_take]

/-- The column at a place on the trailing axes is a piece of the storage. -/
theorem isColumn_slice {trailing : Index} (within : Within trailing (tensor.shape.drop count)) :
    tensor.IsColumn count trailing (tensor.slice (Shape.size (tensor.shape.take count))
      (Shape.position (tensor.shape.drop count) trailing)) :=
  forall₂_slice (List.take_append_drop count tensor.shape).symm within

/-- There is one column at each place on the trailing axes. -/
theorem isColumn_iff {trailing : Index} (within : Within trailing (tensor.shape.drop count))
    {members : List α} :
    tensor.IsColumn count trailing members ↔
      members = tensor.slice (Shape.size (tensor.shape.take count))
        (Shape.position (tensor.shape.drop count) trailing) := by
  constructor
  · intro isColumn
    have unique : Relator.RightUnique fun (leading : Index) (member : α) =>
        tensor.lookup (Index.data (leading ++ trailing)) = .ok member := by
      intro leading member other isMember isOther
      exact Except.ok.inj (isMember.symm.trans isOther)
    exact List.right_unique_forall₂' unique isColumn (isColumn_slice within)
  · rintro rfl
    exact isColumn_slice within

/-- The pieces of the storage are the columns in storage order. -/
theorem forall₂_columns (tensor : Tensor α) (count : Nat) :
    List.Forall₂ (tensor.IsColumn count) (Shape.indices (tensor.shape.drop count))
      (tensor.slices count) := by
  unfold Shape.indices slices
  simp only [List.forall₂_map_left_iff, List.forall₂_map_right_iff]
  apply List.forall₂_same.2
  intro place inside
  have bound := List.mem_range.1 inside
  rw [isColumn_iff (Shape.within_index bound), Shape.position_index bound]

/-! ## One step -/

section

variable {m : Type → Type} [Monad m] [MonadExceptOf Fault m] {given : Whole}

/-- A fold calls its function on the columns, one after the other, and lists the results. -/
theorem map_fold [LawfulMonad m] (isCount : given.value = count) (inside : count ≤ tensor.order)
    (function : List α → m β) :
    (fun result => (result.shape, result.toList)) <$> tensor.fold function given =
      (fun results => (tensor.shape.drop count, results)) <$>
        (tensor.slices count).mapM function := by
  have allowed : 0 ≤ given.value ∧ given.value ≤ tensor.order := by omega
  obtain rfl : given.value.toNat = count := by omega
  simp [fold, allowed, ← map_visit]
  rfl

/-- No other number of axes can be folded. -/
theorem fold_of_outside (outside : ¬ (0 ≤ given.value ∧ given.value ≤ tensor.order))
    (function : List α → m β) :
    tensor.fold function given = throw (.foldCount given tensor.order) := by
  simp [fold, outside]

end

/-- What the fold of the leading axes is: it has the shape of the other axes, and at each index the value
of the function on the column there. -/
structure FoldsTo (tensor : Tensor α) (count : Nat) (function : List α → Except Fault β)
    (result : Tensor β) : Prop where
  shape_eq : result.shape = tensor.shape.drop count
  lookup_eq : ∀ trailing : Index, Within trailing (tensor.shape.drop count) →
    ∃ members element, tensor.IsColumn count trailing members ∧ function members = .ok element ∧
      result.lookup trailing.data = .ok element

/-- A tensor folds to another when the function takes its slices to the elements of this, one by one. -/
theorem foldsTo_iff {function : List α → Except Fault β} {result : Tensor β} :
    tensor.FoldsTo count function result ↔ result.shape = tensor.shape.drop count ∧
      List.Forall₂ (fun members element => function members = .ok element) (tensor.slices count)
        result.toList := by
  constructor
  · rintro ⟨isShape, isElement⟩
    refine ⟨isShape, ?_⟩
    rw [slices, List.forall₂_map_left_iff, List.forall₂_iff_get]
    constructor
    · simp [isShape]
    · intro place inRange inResult
      have bound : place < Shape.size (tensor.shape.drop count) := by simpa using inRange
      have within := Shape.within_index bound
      rcases isElement _ within with ⟨members, element, isColumn, isValue, found⟩
      have stored := (lookup_eq_ok_iff (isShape.symm ▸ within)).1 found
      rw [isShape, Shape.position_index bound] at stored
      rw [isColumn_iff within, Shape.position_index bound] at isColumn
      subst isColumn
      rw [List.getElem?_eq_getElem inResult, Option.some.injEq] at stored
      simpa [stored] using isValue
  · rintro ⟨isShape, each⟩
    refine ⟨isShape, fun trailing within => ?_⟩
    have bound := Shape.position_lt within
    have inSlices : Shape.position (tensor.shape.drop count) trailing <
        (tensor.slices count).length := by simpa [slices] using bound
    have inResult : Shape.position (tensor.shape.drop count) trailing < result.toList.length := by
      simpa [isShape] using bound
    have isValue := (List.forall₂_iff_get.1 each).2 _ inSlices inResult
    simp only [List.get_eq_getElem, slices, List.getElem_map, List.getElem_range] at isValue
    refine ⟨_, _, isColumn_slice within, isValue, ?_⟩
    rw [lookup_eq_ok_iff (isShape.symm ▸ within), isShape, List.getElem?_eq_getElem inResult]

/-- Folding succeeds exactly when there are enough axes and the tensor folds to the result. -/
theorem fold_eq_ok_iff {given : Whole} (isCount : given.value = count)
    {function : List α → Except Fault β} {result : Tensor β} :
    tensor.fold function given = .ok result ↔
      count ≤ tensor.order ∧ tensor.FoldsTo count function result := by
  by_cases inside : count ≤ tensor.order
  · rw [eq_ok_iff_map, map_fold isCount inside function, foldsTo_iff, ← Outcome.mapM_eq_ok_iff]
    refine Outcome.map_eq_ok_iff.trans ?_
    simp only [Prod.mk.injEq, inside, true_and]
    constructor
    · rintro ⟨results, ran, isShape, rfl⟩
      exact ⟨isShape.symm, ran⟩
    · rintro ⟨isShape, ran⟩
      exact ⟨_, ran, isShape.symm, rfl⟩
  · have outside : ¬ (0 ≤ given.value ∧ given.value ≤ tensor.order) := by omega
    rw [fold_of_outside outside]
    constructor
    · intro impossible
      cases impossible
    · rintro ⟨allowed, -⟩
      exact absurd allowed inside

/-- A function without faults has a value on each column, so that the fold has a result. -/
theorem exists_fold (tensor : Tensor α) {given : Whole} (isCount : given.value = count)
    (inside : count ≤ tensor.order) (value : List α → β) :
    ∃ result : Tensor β, tensor.FoldsTo count (fun members => .ok (value members)) result ∧
      ∀ {m : Type → Type} [Monad m] [LawfulMonad m] [MonadExceptOf Fault m],
        tensor.fold (fun members => (pure (value members) : m β)) given = pure result := by
  have counted : ((tensor.slices count).map value).length =
      Shape.size (tensor.shape.drop count) := by simp [slices]
  refine ⟨ofList (tensor.shape.drop count) ((tensor.slices count).map value) counted, ?_, ?_⟩
  · rw [foldsTo_iff, toList_ofList, List.forall₂_map_right_iff]
    exact ⟨rfl, List.forall₂_same.2 fun members inside => rfl⟩
  · intro m _ _ _
    have allowed : 0 ≤ given.value ∧ given.value ≤ tensor.order := by omega
    obtain rfl : given.value.toNat = count := by omega
    simp [fold, allowed, visit_pure]

/-! ## Several steps -/

/-- Longer pieces of a list are made up of shorter ones that stand next to each other. -/
theorem flatten_pieces (members : List α) (length start number : Nat) :
    ((List.range number).map fun place =>
        (members.drop ((start + place) * length)).take length).flatten =
      (members.drop (start * length)).take (number * length) := by
  induction number with
  | zero => simp
  | succ number hypothesis =>
      simp only [Nat.add_mul] at hypothesis ⊢
      simp [List.range_succ, hypothesis, List.take_add, List.drop_drop]

/-- The pieces that belong to the places on some axes, where the first axes are folded.  Once the second
axes are folded, too, they are one piece. -/
def group (tensor : Tensor α) (first second place : Nat) : List (List α) :=
  (List.range (Shape.size ((tensor.shape.drop first).take second))).map fun inner =>
    tensor.slice (Shape.size (tensor.shape.take first))
      (place * Shape.size ((tensor.shape.drop first).take second) + inner)

/-- A group of smaller slices is a larger slice. -/
theorem flatten_group (tensor : Tensor α) (first second place : Nat) :
    (tensor.group first second place).flatten =
      tensor.slice (Shape.size (tensor.shape.take (first + second))) place := by
  simp only [group, slice_eq_take, flatten_pieces, List.take_add, Shape.size_append]
  simp [Nat.mul_comm, Nat.mul_left_comm]

/-- The second axes are the first ones of those that are left. -/
theorem size_drop (shape : Shape) (first second : Nat) :
    Shape.size (shape.drop first) =
      Shape.size ((shape.drop first).take second) * Shape.size (shape.drop (first + second)) := by
  rw [← List.drop_drop, ← Shape.size_append, List.take_append_drop]

theorem take_drop_range {number start length : Nat} (inside : start + length ≤ number) :
    ((List.range number).drop start).take length = (List.range length).map (start + ·) := by
  apply List.ext_getElem
  · simp
    omega
  · intro place first second
    simp

section

variable {function : List α → Except Fault α} {middle : Tensor α} {first second : Nat}

/-- Where the first axes are folded, the pieces of the result are the values on the pieces of a group. -/
theorem FoldsTo.mapM_group (folded : tensor.FoldsTo first function middle) (second : Nat)
    {place : Nat} (bound : place < Shape.size (tensor.shape.drop (first + second))) :
    (tensor.group first second place).mapM function =
      .ok (middle.slice (Shape.size (middle.shape.take second)) place) := by
  rcases foldsTo_iff.1 folded with ⟨isShape, each⟩
  have inside : place * Shape.size ((tensor.shape.drop first).take second) +
      Shape.size ((tensor.shape.drop first).take second) ≤ Shape.size (tensor.shape.drop first) := by
    rw [size_drop tensor.shape first second, ← Nat.succ_mul, Nat.mul_comm]
    exact Nat.mul_le_mul_left _ bound
  have grouped : tensor.group first second place =
      ((tensor.slices first).drop (place * Shape.size ((tensor.shape.drop first).take second))).take
        (Shape.size ((tensor.shape.drop first).take second)) := by
    rw [slices, ← List.map_drop, ← List.map_take, take_drop_range inside, List.map_map]
    rfl
  rw [Outcome.mapM_eq_ok_iff, grouped, slice_eq_take, isShape]
  exact List.forall₂_take _ (List.forall₂_drop _ each)

/-- The pieces of the storage that are left once the first axes are folded fall into groups. -/
theorem exists_group (second : Nat) {members : List α} (isOne : members ∈ tensor.slices first) :
    ∃ place < Shape.size (tensor.shape.drop (first + second)),
      members ∈ tensor.group first second place := by
  rcases List.mem_map.1 isOne with ⟨number, inRange, rfl⟩
  have bound := List.mem_range.1 inRange
  rw [size_drop tensor.shape first second] at bound
  unfold group
  generalize Shape.size ((tensor.shape.drop first).take second) = inner at bound ⊢
  have positive : 0 < inner := by
    by_contra isZero
    simp [Nat.eq_zero_of_not_pos isZero] at bound
  refine ⟨number / inner, Nat.div_lt_of_lt_mul bound,
    List.mem_map.2 ⟨number % inner, List.mem_range.2 (Nat.mod_lt _ positive), ?_⟩⟩
  rw [Nat.div_add_mod']

/-- Whether a function may be applied to parts of a list first, and then to the list of the results. -/
def Distributes (function : List α → Except Fault α) : Prop :=
  ∀ (lists : List (List α)) (result : α),
    function lists.flatten = .ok result ↔ (lists.mapM function >>= function) = .ok result

variable (distributes : Distributes function)

include distributes

/-- Once the first axes are folded, folding the second ones is folding both at once. -/
theorem FoldsTo.foldsTo_iff (folded : tensor.FoldsTo first function middle) {result : Tensor α} :
    middle.FoldsTo second function result ↔ tensor.FoldsTo (first + second) function result := by
  have isRest : middle.shape.drop second = tensor.shape.drop (first + second) := by
    rw [folded.shape_eq, List.drop_drop]
  have same : ∀ place ∈ List.range (Shape.size (tensor.shape.drop (first + second))), ∀ element,
      function (middle.slice (Shape.size (middle.shape.take second)) place) = .ok element ↔
        function (tensor.slice (Shape.size (tensor.shape.take (first + second))) place) =
          .ok element := by
    intro place inside element
    have parts := folded.mapM_group second (List.mem_range.1 inside)
    rw [← flatten_group, distributes, parts]
    rfl
  rw [Tensor.foldsTo_iff, Tensor.foldsTo_iff, isRest, slices, slices, isRest]
  simp only [List.forall₂_map_left_iff]
  rw [forall₂_congr_left same]

/-- Where both steps can be made at once, the first one can be made. -/
theorem FoldsTo.exists_first {result : Tensor α}
    (folded : tensor.FoldsTo (first + second) function result) :
    ∃ middle, tensor.FoldsTo first function middle := by
  have each := (Tensor.foldsTo_iff.1 folded).2
  have defined : ∀ members ∈ tensor.slices first, ∃ element, function members = .ok element := by
    intro members isOne
    rcases exists_group second isOne with ⟨place, bound, inGroup⟩
    have isPiece : tensor.slice (Shape.size (tensor.shape.take (first + second))) place ∈
        tensor.slices (first + second) := List.mem_map.2 ⟨place, List.mem_range.2 bound, rfl⟩
    rcases Outcome.exists_of_mem (Outcome.mapM_eq_ok_iff.2 each) isPiece with ⟨element, -, isValue⟩
    rw [← flatten_group, distributes, Outcome.bind_eq_ok_iff] at isValue
    rcases isValue with ⟨values, read, -⟩
    rcases Outcome.exists_of_mem read inGroup with ⟨value, -, isValue⟩
    exact ⟨value, isValue⟩
  rcases Outcome.exists_mapM defined with ⟨elements, read⟩
  have values := Outcome.mapM_eq_ok_iff.1 read
  have counted : elements.length = Shape.size (tensor.shape.drop first) := by
    rw [← values.length_eq]
    simp [slices]
  exact ⟨ofList _ elements counted, Tensor.foldsTo_iff.2 ⟨rfl, values⟩⟩

end

/-- Folding some axes and then others is folding them all at once. -/
theorem fold_bind_fold {function : List α → Except Fault α} (distributes : Distributes function)
    {first second : Whole} (isFirst : 0 ≤ first.value) (isSecond : 0 ≤ second.value)
    {result : Tensor α} :
    (tensor.fold function first >>= fun middle => middle.fold function second) = .ok result ↔
      tensor.fold function (.number (first.value + second.value)) = .ok result := by
  rcases Int.eq_ofNat_of_zero_le isFirst with ⟨before, isBefore⟩
  rcases Int.eq_ofNat_of_zero_le isSecond with ⟨after, isAfter⟩
  have isBoth : (Whole.number (first.value + second.value)).value = (before + after : Nat) := by
    rw [Whole.value_number, isBefore, isAfter]
    rfl
  rw [Outcome.bind_eq_ok_iff, fold_eq_ok_iff isBoth]
  simp only [fold_eq_ok_iff isBefore, fold_eq_ok_iff isAfter]
  constructor
  · rintro ⟨middle, ⟨inside, folded⟩, isRest, later⟩
    refine ⟨?_, (folded.foldsTo_iff distributes).1 later⟩
    rw [order, folded.shape_eq, List.length_drop] at isRest
    unfold order at inside ⊢
    omega
  · rintro ⟨inside, folded⟩
    rcases folded.exists_first distributes with ⟨middle, isMiddle⟩
    refine ⟨middle, ⟨by omega, isMiddle⟩, ?_, (isMiddle.foldsTo_iff distributes).2 folded⟩
    rw [order, isMiddle.shape_eq, List.length_drop]
    unfold order at inside
    omega

/-- A function without faults may be applied in steps in every kind of computation. -/
theorem fold_pure_bind {value : List α → α}
    (inSteps : ∀ lists : List (List α), value lists.flatten = value (lists.map value))
    {first second : Whole} (isFirst : 0 ≤ first.value) (isSecond : 0 ≤ second.value)
    (inside : first.value + second.value ≤ tensor.order)
    {m : Type → Type} [Monad m] [LawfulMonad m] [MonadExceptOf Fault m] :
    (tensor.fold (fun members => (pure (value members) : m α)) first >>= fun middle =>
        middle.fold (fun members => pure (value members)) second) =
      tensor.fold (fun members => pure (value members)) (.number (first.value + second.value)) := by
  have distributes : Distributes fun members => .ok (value members) := by
    intro lists result
    have read : lists.mapM (fun members => (.ok (value members) : Except Fault α)) =
        .ok (lists.map value) := Outcome.mapM_eq_ok fun members listed => rfl
    change Except.ok (value lists.flatten) = _ ↔ _
    rw [inSteps, read]
    rfl
  rcases Int.eq_ofNat_of_zero_le isFirst with ⟨before, isBefore⟩
  rcases Int.eq_ofNat_of_zero_le isSecond with ⟨after, isAfter⟩
  have isBoth : (Whole.number (first.value + second.value)).value = (before + after : Nat) := by
    rw [Whole.value_number, isBefore, isAfter]
    rfl
  rw [isBefore, isAfter] at inside
  rcases exists_fold tensor isBefore (by omega) value with ⟨middle, isMiddle, ranFirst⟩
  have enough : after ≤ middle.order := by
    rw [order, isMiddle.shape_eq, List.length_drop]
    unfold order at inside
    omega
  rcases exists_fold middle isAfter enough value with ⟨result, isResult, ranSecond⟩
  rcases exists_fold tensor isBoth (by omega) value with ⟨both, isAll, ranBoth⟩
  have same : result = both := by
    have folded := (isMiddle.foldsTo_iff distributes).1 isResult
    have first := (fold_eq_ok_iff isBoth).2 ⟨by omega, folded⟩
    have second := (fold_eq_ok_iff isBoth).2 ⟨by omega, isAll⟩
    exact Except.ok.inj (first.symm.trans second)
  rw [ranFirst, pure_bind, ranSecond, ranBoth, same]

end Tensor

/-! ## Truth values -/

namespace Truth

/-- The operations that may be applied to parts of a sequence first. -/
def InSteps (aggregate : Aggregate) : Prop :=
  aggregate = .all ∨ aggregate = .any ∨ aggregate = .parity

/-- The meaning of such an operation, which is that of the operation on the meanings of the parts. -/
theorem InSteps.exists_meaning {aggregate : Aggregate} (inSteps : InSteps aggregate) :
    ∃ meaning : List Bool → Bool, aggregate.eval = (fun values => some (meaning values)) ∧
      ∀ lists : List (List Bool), meaning lists.flatten = meaning (lists.map meaning) := by
  rcases inSteps with rfl | rfl | rfl
  · refine ⟨fun values => values.all id, rfl, fun lists => ?_⟩
    simp [List.all_flatten, List.all_map]
  · refine ⟨fun values => values.any id, rfl, fun lists => ?_⟩
    simp [List.any_flatten, List.any_map]
  · refine ⟨fun values => values.count true % 2 == 1, rfl, fun lists => ?_⟩
    induction lists with
    | nil => rfl
    | cons values lists hypothesis =>
        rw [Bool.eq_iff_iff] at hypothesis ⊢
        simp only [List.flatten_cons, List.map_cons, List.count_append, List.count_cons,
          beq_iff_eq] at hypothesis ⊢
        split <;> omega

variable {σ V : Type} [TruthValued V]

/-- Folding in two goes with an aggregate that goes in steps is folding in one, for its values and its
refusals. -/
theorem foldTensor_bind {aggregate : Aggregate} (inSteps : InSteps aggregate) (tensor : Tensor V)
    {first second : Whole} (isFirst : 0 ≤ first.value) (isSecond : 0 ≤ second.value)
    (inside : first.value + second.value ≤ tensor.order) :
    ((algebra : BoolAlgebra σ V).foldTensor aggregate tensor (some first) >>= fun middle =>
        (algebra : BoolAlgebra σ V).foldTensor aggregate middle (some second)) =
      (algebra : BoolAlgebra σ V).foldTensor aggregate tensor
        (some (.number (first.value + second.value))) := by
  rcases inSteps.exists_meaning with ⟨meaning, isMeaning, parts⟩
  have isPure : (algebra : BoolAlgebra σ V).aggregate aggregate =
      fun elements => pure (ofBool (meaning (values elements))) := by
    funext elements
    rw [aggregate_eq, isMeaning]
  unfold BoolAlgebra.foldTensor
  rw [isPure]
  apply Tensor.fold_pure_bind _ isFirst isSecond inside
  intro lists
  have separate : values lists.flatten = (lists.map values).flatten := by
    simp only [values, List.map_flatten]
    rfl
  rw [separate, parts]
  simp [values, List.map_map, Function.comp_def, truth_ofBool]

end Truth

/-! ## Folding as a whole -/

/-- A shape with an empty axis has no elements. -/
theorem Shape.size_eq_zero {shape : Shape} (empty : 0 ∈ shape.values) : shape.size = 0 := by
  induction shape with
  | nil => simp [values] at empty
  | cons dimension shape hypothesis =>
      simp only [values, List.map_cons, List.mem_cons] at empty
      rcases empty with isZero | empty
      · simp [size, ← isZero]
      · simp [size, hypothesis empty]

namespace Tensor

variable {α : Type}

/-- How the leading axes of a tensor are folded. -/
structure Folding (tensor : Tensor α) : Prop where
  /-- The function is called once at each index of the kept axes, in storage order, on the column there.
  In any kind of computation the fold consists of these calls. -/
  calls : ∀ (given : Whole) (count : Nat), given.value = count → count ≤ tensor.order →
    ∃ columns, List.Forall₂ (tensor.IsColumn count) (Shape.indices (tensor.shape.drop count)) columns ∧
      ∀ {β : Type} {m : Type → Type} [Monad m] [LawfulMonad m] [MonadExceptOf Fault m]
        (function : List α → m β),
        (fun result => (result.shape, result.toList)) <$> tensor.fold function given =
          (fun results => (tensor.shape.drop count, results)) <$> columns.mapM function
  /-- The result has the shape of the kept axes and, at each index, the value of the function on the column
  there. -/
  result : ∀ (given : Whole) (count : Nat), given.value = count → count ≤ tensor.order →
    ∀ {β : Type} (function : List α → Except Fault β) (result : Tensor β),
      tensor.fold function given = .ok result ↔ tensor.FoldsTo count function result
  /-- There is a result where the function has a value on every list. -/
  total : ∀ (given : Whole) (count : Nat), given.value = count → count ≤ tensor.order →
    ∀ {β : Type} (value : List α → β), ∃ result : Tensor β,
      tensor.FoldsTo count (fun members => .ok (value members)) result ∧
        ∀ {m : Type → Type} [Monad m] [LawfulMonad m] [MonadExceptOf Fault m],
          tensor.fold (fun members => (pure (value members) : m β)) given = pure result
  /-- Where a folded dimension is zero, the columns are empty. -/
  empty : ∀ (count : Nat) (trailing : Index) (members : List α), tensor.IsColumn count trailing members →
    0 ∈ Shape.values (tensor.shape.take count) → members = []
  /-- No other number of axes can be folded. -/
  refused : ∀ given : Whole, ¬ (0 ≤ given.value ∧ given.value ≤ tensor.order) →
    (Fault.foldCount given tensor.order).category = .value ∧
      ∀ {β : Type} {m : Type → Type} [Monad m] [MonadExceptOf Fault m] (function : List α → m β),
        tensor.fold function given = throw (.foldCount given tensor.order)
  /-- The axes can be folded in two steps where the function may be applied to parts of a list first. -/
  steps : ∀ function : List α → Except Fault α, Distributes function →
    ∀ first second : Whole, 0 ≤ first.value → 0 ≤ second.value → ∀ result : Tensor α,
      (tensor.fold function first >>= fun middle => middle.fold function second) = .ok result ↔
        tensor.fold function (.number (first.value + second.value)) = .ok result
  /-- Conjunction, disjunction and parity of truth values can be folded in two steps. -/
  truths : ∀ (σ : Type) [TruthValued α] (aggregate : Aggregate), Truth.InSteps aggregate →
    ∀ first second : Whole, 0 ≤ first.value → 0 ≤ second.value →
      first.value + second.value ≤ tensor.order →
        ((Truth.algebra : BoolAlgebra σ α).foldTensor aggregate tensor (some first) >>= fun middle =>
            (Truth.algebra : BoolAlgebra σ α).foldTensor aggregate middle (some second)) =
          (Truth.algebra : BoolAlgebra σ α).foldTensor aggregate tensor
            (some (.number (first.value + second.value)))

/-- Every tensor is folded along its leading axes. -/
theorem folding (tensor : Tensor α) : Folding tensor where
  calls := fun given count isCount inside =>
    ⟨tensor.slices count, forall₂_columns tensor count, map_fold isCount inside⟩
  result := fun given count isCount inside _ function result => by
    simp [fold_eq_ok_iff isCount, inside]
  total := fun given count isCount inside _ value => exists_fold tensor isCount inside value
  empty := by
    intro count trailing members isColumn isZero
    have counted := isColumn.length_eq
    rw [Shape.length_indices, Shape.size_eq_zero isZero] at counted
    exact List.eq_nil_of_length_eq_zero counted.symm
  refused := fun given outside => ⟨rfl, fold_of_outside outside⟩
  steps := fun function distributes first second isFirst isSecond result =>
    fold_bind_fold distributes isFirst isSecond
  truths := fun σ _ aggregate inSteps first second isFirst isSecond inside =>
    Truth.foldTensor_bind inSteps tensor isFirst isSecond inside

/-- The rows of a small matrix are summed one by one, and a folded axis without places leaves sums of
nothing. -/
theorem folding_sums :
    (∃ result : Tensor Nat,
      (ofList [.number 2, .number 2] [1, 2, 3, 4] rfl).fold
          (fun members => (pure (members.foldr Nat.add 0) : Except Fault Nat)) (.number 1) = .ok result ∧
        result.lookup (Index.data [1]) = .ok 7) ∧
    ∃ result : Tensor Nat,
      (ofList [.number 0, .number 2] ([] : List Nat) rfl).fold
          (fun members => (pure (members.foldr Nat.add 0) : Except Fault Nat)) (.number 1) = .ok result ∧
        result.lookup (Index.data [1]) = .ok 0 := by
  constructor
  · rcases (folding (ofList [.number 2, .number 2] [1, 2, 3, 4] rfl)).total (.number 1) 1 rfl
      (by decide) (List.foldr Nat.add 0) with ⟨result, folded, ran⟩
    have within : Within [1] [.number 2] := by decide
    rcases folded.lookup_eq [1] within with ⟨members, element, isColumn, isValue, found⟩
    have isSlice : members = [3, 4] := (isColumn_iff within).1 isColumn
    refine ⟨result, ran, ?_⟩
    rw [found, ← isValue, isSlice]
    rfl
  · rcases (folding (ofList [.number 0, .number 2] ([] : List Nat) rfl)).total (.number 1) 1 rfl
      (by decide) (List.foldr Nat.add 0) with ⟨result, folded, ran⟩
    have within : Within [1] [.number 2] := by decide
    rcases folded.lookup_eq [1] within with ⟨members, element, isColumn, isValue, found⟩
    have isEmpty : members = [] := (folding _).empty 1 [1] members isColumn (by decide)
    refine ⟨result, ran, ?_⟩
    rw [found, ← isValue, isEmpty]
    rfl

end Tensor

end TensorLogic
