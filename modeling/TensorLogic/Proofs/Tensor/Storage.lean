/-
Module: TensorLogic.Proofs.Tensor.Storage
Purpose: Indices are listed, numbered and read, and tensors generated and laid out, in one storage order.
Main exports: tuples, Shape.countedBelow, Shape.indicesBelow_eq_counted, Shape.strode?,
  Shape.strode?_eq_some_iff, Datum.descend, Tensor.StorageOrder, Tensor.storage_order
-/
import Mathlib.Data.List.Sections
import Mathlib.Data.Set.Function
import Mathlib.Order.Interval.Set.Defs
import TensorLogic.Argument
import TensorLogic.Proofs.Tensor.Diagonal
import TensorLogic.Proofs.Tensor.Folding
import TensorLogic.Tensor.Text

namespace TensorLogic

/-!
The storage order of the indices of a shape can be told in several ways.  A product of the ranges on all
axes, which runs through its last factor fastest, is taken of the axes in reverse, and each tuple is turned
round.  The place of an index is summed up along the axes while a stride is multiplied up.  An array reads
its elements through strides as well, and nested lists are made from it axis by axis.  Here these are shown
to be one order, for any number of axes and any dimensions, so that whatever goes through the elements of a
tensor in one way finds them in the places where any other way has put them.

What can be listed, and laid out, has limits.  Beyond them a request is refused before anything is done.
-/

/-! ## Listing indices -/

/-- All ways to take one member of each list, where the member of the last list varies fastest. -/
def tuples {α : Type} : List (List α) → List (List α)
  | [] => [[]]
  | members :: lists => members.flatMap fun member => (tuples lists).map (member :: ·)

/-- Tuples are counted with the last member first to change. -/
theorem tuples_concat {α : Type} (lists : List (List α)) (members : List α) :
    tuples (lists ++ [members]) =
      (tuples lists).flatMap fun tuple => members.map fun member => tuple ++ [member] := by
  induction lists with
  | nil => simp [tuples, ← List.map_eq_flatMap]
  | cons first lists hypothesis =>
      simp only [List.cons_append, tuples, hypothesis, List.flatMap_assoc, List.map_flatMap,
        List.flatMap_map, List.map_map]
      rfl

/-- In tuples that are taken of the lists in reverse and then turned round, the member of the first list
varies fastest. -/
theorem reverse_tuples {α : Type} (lists : List (List α)) :
    (tuples lists.reverse).map List.reverse = lists.sections := by
  induction lists with
  | nil => rfl
  | cons members lists hypothesis =>
      have turned (tuple : List α) :
          (members.map fun member => tuple ++ [member]).map List.reverse =
            members.map fun member => member :: tuple.reverse := by
        simp [List.map_map, Function.comp_def]
      rw [List.reverse_cons, tuples_concat, List.map_flatMap, List.sections, ← hypothesis,
        List.flatMap_map]
      simp only [turned]

namespace Shape

/-- The indices below some numbers, as a product counts them: of the ranges on the axes in reverse, each
tuple being turned round. -/
def countedBelow (dimensions : List Whole) : List Index :=
  (tuples (dimensions.reverse.map fun dimension => List.range dimension.value.toNat)).map List.reverse

/-- The indices of a shape are the sections of the ranges below its dimensions. -/
theorem indices_eq_sections (shape : Shape) :
    shape.indices = (shape.map fun dimension => List.range dimension.value).sections := by
  induction shape with
  | nil => rfl
  | cons dimension shape hypothesis => rw [indices_cons, hypothesis, List.map_cons, List.sections]

theorem indicesBelow_eq_sections (dimensions : List Whole) :
    indicesBelow dimensions =
      (dimensions.map fun dimension => List.range dimension.value.toNat).sections := by
  rw [indicesBelow, indices_eq_sections, List.map_map]
  rfl

/-- The place of each index counts the tuples of the product before it. -/
theorem indicesBelow_eq_counted (dimensions : List Whole) :
    indicesBelow dimensions = countedBelow dimensions := by
  rw [countedBelow, List.map_reverse, reverse_tuples, indicesBelow_eq_sections]

/-- Below some numbers lie the indices with one coordinate below each of them. -/
theorem mem_indicesBelow {dimensions : List Whole} {index : Index} :
    index ∈ indicesBelow dimensions ↔
      List.Forall₂ (fun (coordinate : Nat) dimension => (coordinate : Int) < dimension.value) index
        dimensions := by
  rw [indicesBelow_eq_sections, List.mem_sections, List.forall₂_map_right_iff]
  simp only [List.mem_range, Int.lt_toNat]

/-- The indices below the dimensions of a shape are those of the shape. -/
theorem indicesBelow_toWhole (shape : Shape) : indicesBelow (shape.map Count.toWhole) = shape.indices := by
  rw [indicesBelow_eq_sections, indices_eq_sections, List.map_map]
  simp [Function.comp_def]

/-- No index is listed twice. -/
theorem nodup_indices (shape : Shape) : shape.indices.Nodup := by
  apply List.Nodup.map_on _ List.nodup_range
  intro place inside other otherInside same
  rw [← position_index (List.mem_range.1 inside), same, position_index (List.mem_range.1 otherInside)]

end Shape

namespace Datum

open Shape

/-- A request for the indices below some numbers is granted where the coordinates can be listed. -/
theorem indices_of_wholes [Platform] {given : Datum} {dimensions : List Whole}
    (isGiven : given.wholes = .ok dimensions) :
    given.indices = (checkRanges dimensions).map fun _ => indicesBelow dimensions := by
  rw [indices, isGiven]
  change (checkRanges dimensions >>= fun _ => _) = _
  cases checkRanges dimensions with
  | ok => rfl
  | error => rfl

theorem listedShape_of_shape [Platform] {given : Datum} {shape : Shape} (isGiven : given.shape = .ok shape) :
    given.listedShape = (checkRanges (shape.map Count.toWhole)).map fun _ => shape := by
  rw [listedShape, isGiven]
  change (checkRanges (shape.map Count.toWhole) >>= fun _ => _) = _
  cases checkRanges (shape.map Count.toWhole) with
  | ok => rfl
  | error => rfl

end Datum

namespace Shape

/-! ## Numbering indices -/

/-- The index that is listed at a place is the one with that position. -/
theorem getElem?_indices {shape : Shape} {place : Nat} {index : Index} :
    shape.indices[place]? = some index ↔ Within index shape ∧ shape.position index = place := by
  rw [indices, List.getElem?_map, Option.map_eq_some_iff]
  constructor
  · rintro ⟨number, listed, rfl⟩
    obtain ⟨bound, isNumber⟩ := List.getElem?_eq_some_iff.1 listed
    rw [List.length_range] at bound
    rw [← isNumber, List.getElem_range]
    exact ⟨within_index bound, position_index bound⟩
  · rintro ⟨within, rfl⟩
    exact ⟨_, List.getElem?_range (position_lt within), index_position within⟩

/-- Positions number the indices from zero up to the size. -/
theorem bijOn_position (shape : Shape) :
    Set.BijOn shape.position {index | Within index shape} (Set.Iio shape.size) := by
  refine ⟨fun index within => position_lt within, fun index within other inside same => ?_,
    fun place bound => ⟨shape.index place, within_index bound, position_index bound⟩⟩
  rw [← index_position within, same, index_position inside]

/-- The place of the index that whole numbers name, summed up axis by axis from a given place, while the
stride is multiplied up from a given one.  Numbers that are too few, too many or outside have none. -/
def strode? (place stride : Nat) : Shape → List Whole → Option Nat
  | [], [] => some place
  | dimension :: shape, whole :: wholes =>
      if 0 ≤ whole.value ∧ whole.value < dimension.value then
        strode? (place + stride * whole.value.toNat) (stride * dimension.value) shape wholes
      else none
  | _, _ => none

/-- Striding along the axes arrives at the position of the index that is named, and nowhere if none is. -/
theorem strode?_eq_some_iff {place stride : Nat} {shape : Shape} {wholes : List Whole} {found : Nat} :
    strode? place stride shape wholes = some found ↔
      ∃ index, Within index shape ∧ index.Named wholes ∧ found = place + stride * shape.position index := by
  fun_induction strode? place stride shape wholes with
  | case1 place stride =>
      constructor
      · intro arrived
        exact ⟨[], trivial, rfl, (Option.some.inj arrived).symm⟩
      · rintro ⟨index, _, named, rfl⟩
        obtain rfl := List.eq_nil_of_length_eq_zero named.length_eq.symm
        rfl
  | case2 place stride dimension shape whole wholes inside hypothesis =>
      rw [hypothesis]
      constructor
      · rintro ⟨index, within, named, rfl⟩
        refine ⟨whole.value.toNat :: index, ⟨by omega, within⟩,
          Index.Named.cons_iff.2 ⟨by omega, named⟩, ?_⟩
        rw [position, Nat.mul_add, Nat.mul_assoc, Nat.add_assoc]
      · rintro ⟨index, within, named, rfl⟩
        cases index with
        | nil => exact within.elim
        | cons coordinate index =>
            obtain ⟨isFirst, rest⟩ := Index.Named.cons_iff.1 named
            refine ⟨index, within.2, rest, ?_⟩
            rw [isFirst, Int.toNat_natCast, position, Nat.mul_add, Nat.mul_assoc, Nat.add_assoc]
  | case3 place stride dimension shape whole wholes outside =>
      refine iff_of_false (Option.some_ne_none found).symm ?_
      rintro ⟨index, within, named, -⟩
      cases index with
      | nil => exact within.elim
      | cons coordinate index =>
          have isFirst := (Index.Named.cons_iff.1 named).1
          have bound : coordinate < dimension.value := within.1
          exact outside ⟨by omega, by omega⟩
  | case4 shape _ _ wholes notBothEmpty notBothLonger =>
      refine iff_of_false (Option.some_ne_none found).symm ?_
      rintro ⟨index, within, named, -⟩
      have counted : wholes.length = shape.length := named.length_eq.trans (length_eq_of_within within)
      cases shape with
      | nil => exact notBothEmpty rfl (List.eq_nil_of_length_eq_zero counted)
      | cons dimension shape =>
          cases wholes with
          | nil => cases counted
          | cons whole wholes => exact notBothLonger _ _ _ _ rfl rfl

/-- Coordinates are located where striding along the axes arrives. -/
theorem map_position_locate (shape : Shape) (wholes : List Whole) :
    (shape.locate (wholes.map .ofWhole)).toOption.map (fun found => shape.position found.val) =
      shape.strode? 0 1 wholes := by
  by_cases isNamed : ∃ index, Within index shape ∧ index.Named wholes
  · obtain ⟨index, within, named⟩ := isNamed
    have arrived : shape.strode? 0 1 wholes = some (shape.position index) :=
      strode?_eq_some_iff.2 ⟨index, within, named, by omega⟩
    rw [locate_named within named, arrived]
    rfl
  · have unnamed : ∀ index, Within index shape → ¬index.Named wholes :=
      fun index within named => isNamed ⟨index, within, named⟩
    obtain ⟨fault, _, refused⟩ := locate_unnamed unnamed
    have nowhere : shape.strode? 0 1 wholes = none := by
      rw [Option.eq_none_iff_forall_ne_some]
      intro found arrived
      obtain ⟨index, within, named, _⟩ := strode?_eq_some_iff.1 arrived
      exact unnamed index within named
    rw [refused, nowhere]
    rfl

end Shape

/-! ## Nested lists -/

/-- The member of nested lists at some coordinates. -/
def Datum.descend : Datum → Index → Option Datum
  | datum, [] => some datum
  | datum, coordinate :: index => do
      let members ← datum.items?
      (← members[coordinate]?).descend index

theorem Datum.descend_ofList (members : List Datum) (coordinate : Nat) (index : Index) :
    (Datum.ofList members).descend (coordinate :: index) =
      members[coordinate]? >>= fun member => member.descend index := rfl

/-- In lists that are nested axis by axis, an index of the shape leads to what is written there, and any
other one with as many coordinates leads nowhere. -/
theorem Tensor.descend_nestedFrom (element : Index → Datum) {shape : Shape} {index : Index}
    (counted : index.length = shape.length) (leading : Index) :
    (nestedFrom element shape leading).descend index =
      if Within index shape then some (element (leading ++ index)) else none := by
  induction shape generalizing index leading with
  | nil =>
      obtain rfl := List.eq_nil_of_length_eq_zero counted
      rw [List.append_nil]
      rfl
  | cons dimension shape hypothesis =>
      cases index with
      | nil => cases counted
      | cons coordinate index =>
          have later := hypothesis (Nat.succ.inj counted) (leading ++ [coordinate])
          rw [List.append_assoc, List.singleton_append] at later
          rw [nestedFrom, Datum.descend_ofList, List.getElem?_map]
          by_cases inside : coordinate < dimension.value
          · have sameCondition : Within (coordinate :: index) (dimension :: shape) ↔ Within index shape :=
              and_iff_right inside
            rw [List.getElem?_range inside]
            simp only [sameCondition, ← later]
            rfl
          · have outside : ¬Within (coordinate :: index) (dimension :: shape) :=
              fun within => inside within.1
            rw [if_neg outside, List.getElem?_eq_none (by simpa using inside)]
            rfl

/-! ## One order -/

/-- How the indices below some numbers are listed. -/
structure Shape.Listing [Platform] (dimensions : List Whole) : Prop where
  /-- Those indices are listed that have one coordinate below each number. -/
  complete : ∀ index, index ∈ indicesBelow dimensions ↔
    List.Forall₂ (fun (coordinate : Nat) dimension => (coordinate : Int) < dimension.value) index dimensions
  /-- None is listed twice. -/
  once : (indicesBelow dimensions).Nodup
  /-- They come in the order in which a product of the ranges in reverse counts them. -/
  counted : indicesBelow dimensions = countedBelow dimensions
  /-- Whoever asks for them gets them as long as the coordinates on every axis can be listed. -/
  answered : ∀ given : Datum, given.wholes = .ok dimensions →
    (∀ dimension ∈ dimensions, dimension.value < memoryLimit) → given.indices = .ok (indicesBelow dimensions)
  /-- If they cannot, this is a want of memory, or of numbers that fit into a machine word. -/
  refused : ∀ given : Datum, given.wholes = .ok dimensions →
    (¬∀ dimension ∈ dimensions, dimension.value < memoryLimit) →
      ∃ fault, (fault.category = .overflow ∨ fault.category = .memory) ∧ given.indices = .error fault

/-- How the indices within a shape are numbered. -/
structure Shape.Numbering (shape : Shape) : Prop where
  /-- They are those below its dimensions. -/
  listed : shape.indices = indicesBelow (shape.map Count.toWhole)
  /-- The index that is listed at a place is the one with that position. -/
  placed : ∀ place index,
    shape.indices[place]? = some index ↔ Within index shape ∧ shape.position index = place
  /-- The positions are the numbers below the product of the dimensions, each taken once. -/
  bijective : Set.BijOn shape.position {index | Within index shape} (Set.Iio shape.values.prod)
  /-- Whole numbers that name an index within the shape locate it. -/
  located : ∀ (wholes : List Whole) (index : Index) (within : Within index shape), index.Named wholes →
    shape.locate (wholes.map .ofWhole) = .ok ⟨index, within⟩
  /-- All others are refused: too few or too many of them, negative ones and ones that are too large. -/
  unlocated : ∀ wholes : List Whole, (∀ index, Within index shape → ¬index.Named wholes) →
    ∃ fault, fault.category = .index ∧ shape.locate (wholes.map .ofWhole) = .error fault
  /-- The position of what is located is where striding along the axes arrives. -/
  strided : ∀ wholes : List Whole,
    (shape.locate (wholes.map .ofWhole)).toOption.map (fun found => shape.position found.val) =
      shape.strode? 0 1 wholes

namespace Tensor

variable {α : Type}

/-- How a tensor of some shape is generated index by index. -/
structure Generation [Platform] (α : Type) (shape : Shape) : Prop where
  /-- The shape is taken as long as the coordinates on every axis can be listed. -/
  admitted : ∀ given : Datum, given.shape = .ok shape → shape.Listable → given.listedShape = .ok shape
  /-- If they cannot, this is a want of memory, or of numbers that fit into a machine word. -/
  refused : ∀ given : Datum, given.shape = .ok shape → ¬shape.Listable →
    ∃ fault, (fault.category = .overflow ∨ fault.category = .memory) ∧ given.listedShape = .error fault
  /-- The function is called once at each index, in the order in which they are listed.  In any kind of
  computation, generating the tensor consists of these calls. -/
  calls : ∀ {m : Type → Type} [Monad m] [LawfulMonad m] (function : Index → m α),
    (fun tensor => (tensor.shape, tensor.toList)) <$> generateM shape function =
      (fun elements => (shape, elements)) <$> shape.indices.mapM function
  /-- There is a tensor where the function has a value at every index. -/
  total : ∀ function : Index → Except Fault α,
    (∀ index, Within index shape → ∃ element, function index = .ok element) →
      ∃ tensor, generateM shape function = .ok tensor
  /-- It has the value of the function at each index. -/
  elements : ∀ (function : Index → Except Fault α) (tensor : Tensor α),
    generateM shape function = .ok tensor ↔
      tensor.shape = shape ∧ ∀ index, Within index shape →
        ∃ element, function index = .ok element ∧ tensor.lookup index.data = .ok element

/-- The ways in which the elements of a tensor are reached. -/
structure Stored (tensor : Tensor α) : Prop where
  /-- Going through the storage is going through the elements at the indices as they are listed. -/
  iterated : (tensor.shape.indices.mapM fun index => tensor.lookup index.data) = .ok tensor.toList
  /-- Generated from its elements at the indices, the tensor comes out again. -/
  regenerated : (generateM tensor.shape fun index => tensor.lookup index.data) = .ok tensor
  /-- So it does when its elements are filled in as they are stored. -/
  rebuilt : ofElems tensor.shape tensor.toList = .ok tensor
  /-- An index may be given as a sequence of its coordinates. -/
  subscripted : ∀ (index : Index) (within : Within index tensor.shape),
    ((Datum.ofList index.data).coordinates >>= tensor.lookup) = .ok (tensor.get index within)
  /-- On a single axis, the coordinate alone will do. -/
  single : ∀ (coordinate : Nat) (within : Within [coordinate] tensor.shape),
    ((Datum.int coordinate).coordinates >>= tensor.lookup) = .ok (tensor.get [coordinate] within)
  /-- There are no elements outside the shape. -/
  outside : ∀ wholes : List Whole, (∀ index, Within index tensor.shape → ¬index.Named wholes) →
    ∃ fault, fault.category = .index ∧ tensor.lookup (wholes.map .ofWhole) = .error fault
  /-- An array that reads the storage through strides finds the same elements. -/
  strided : ∀ (index : Index) (within : Within index tensor.shape),
    tensor.layout.read index within = tensor.get index within

/-- How the elements of a tensor are laid out in nested lists, by way of an array. -/
structure LaidOut [Platform] (tensor : Tensor Datum) : Prop where
  /-- They are laid out where the limits of an array leave room and the dimensions are given as numbers. -/
  possible : tensor.shape.FitsArray → tensor.shape.Numeric → ∃ nested, tensor.array = .ok nested
  /-- Beyond these limits they are not. -/
  impossible : ¬tensor.shape.FitsArray → ∃ fault, tensor.array = .error fault
  /-- What is laid out has the element at each index there, and nothing at any other index of that length. -/
  elements : ∀ nested, tensor.array = .ok nested → ∀ index : Index, index.length = tensor.order →
    nested.descend index =
      if within : Within index tensor.shape then some (tensor.get index within) else none

/-- Whatever indices and elements are gone through for, there is one order for them. -/
structure StorageOrder [Platform] (α : Type) : Prop where
  listing : ∀ dimensions : List Whole, Shape.Listing dimensions
  numbering : ∀ shape : Shape, shape.Numbering
  generation : ∀ shape : Shape, Generation α shape
  stored : ∀ tensor : Tensor α, tensor.Stored
  laidOut : ∀ tensor : Tensor Datum, tensor.LaidOut

end Tensor

/-- All indices below some numbers are listed in one order, or not at all. -/
theorem Shape.listing [Platform] (dimensions : List Whole) : Listing dimensions where
  complete := fun _ => mem_indicesBelow
  once := nodup_indices _
  counted := indicesBelow_eq_counted dimensions
  answered := by
    intro given isGiven below
    rw [Datum.indices_of_wholes isGiven, checkRanges_eq_ok_iff.2 below]
    rfl
  refused := by
    intro given isGiven notBelow
    obtain ⟨fault, kind, refused⟩ := exists_refused_ranges notBelow
    refine ⟨fault, kind, ?_⟩
    rw [Datum.indices_of_wholes isGiven, refused]
    rfl

/-- Positions number the indices of a shape in the order of the listing. -/
theorem Shape.numbering (shape : Shape) : shape.Numbering where
  listed := (indicesBelow_toWhole shape).symm
  placed := fun _ _ => getElem?_indices
  bijective := Tensor.size_eq_prod shape ▸ bijOn_position shape
  located := fun _ _ within named => locate_named within named
  unlocated := fun _ unnamed => locate_unnamed unnamed
  strided := map_position_locate shape

namespace Tensor

/-- A tensor is generated in the order of the listing. -/
theorem generation [Platform] (α : Type) (shape : Shape) : Generation α shape where
  admitted := by
    intro given isGiven listable
    rw [Datum.listedShape_of_shape isGiven, Shape.checkRanges_eq_ok.2 listable]
    rfl
  refused := by
    intro given isGiven unlistable
    obtain ⟨fault, kind, refused⟩ := Shape.exists_refused_shape unlistable
    refine ⟨fault, kind, ?_⟩
    rw [Datum.listedShape_of_shape isGiven, refused]
    rfl
  calls := map_generateM shape
  total := by
    intro function each
    obtain ⟨tensor, generated, _⟩ := exists_generateM each
    exact ⟨tensor, generated⟩
  elements := fun _ _ => generateM_eq_ok_iff

/-- The elements of a tensor are stored in the order of the listing. -/
theorem stored {α : Type} (tensor : Tensor α) : tensor.Stored where
  iterated := mapM_lookup tensor
  regenerated := generateM_eq_ok_iff_mapM.2 ⟨rfl, mapM_lookup tensor⟩
  rebuilt := by
    rw [ofElems, dif_pos tensor.length_toList]
    rfl
  subscripted := fun _ within => tensor.lookup_data within
  single := fun _ within => tensor.lookup_data within
  outside := by
    intro wholes unnamed
    obtain ⟨fault, isIndex, refused⟩ := Shape.locate_unnamed unnamed
    exact ⟨fault, isIndex, by rw [lookup, refused]; rfl⟩
  strided := Layout.read_layout tensor

/-- The array of a tensor has its elements at their indices. -/
theorem laidOut [Platform] (tensor : Tensor Datum) : tensor.LaidOut where
  possible := by
    intro fits numeric
    refine ⟨tensor.nested, ?_⟩
    rw [array, (Shape.checkLayout_decides tensor.shape).ok fits numeric]
    rfl
  impossible := by
    intro tooLarge
    cases checked : tensor.shape.checkLayout with
    | ok => exact absurd ((Shape.checkLayout_decides tensor.shape).accepted checked).1 tooLarge
    | error fault => exact ⟨fault, by rw [array, checked]; rfl⟩
  elements := by
    intro nested isNested index counted
    obtain ⟨_, _, returned⟩ := Outcome.bind_eq_ok_iff.1 isNested
    obtain rfl := Except.ok.inj returned
    rw [Tensor.nested, descend_nestedFrom _ counted, List.nil_append]
    split
    · rfl
    · rfl

/-- There is one storage order.  The indices of a shape are all listed, each once, and the one that is listed
at a place has that position, so that positions number the indices from zero up to the size; whatever names no
index is refused.  So a tensor that is generated from its elements, or filled in as they are stored, comes out
again; a generated tensor has the value of the function at each index, after one call at each, in the order of
the listing; and laid out as an array a tensor has its elements at their indices. -/
theorem storage_order [Platform] (α : Type) : StorageOrder α where
  listing := Shape.listing
  numbering := Shape.numbering
  generation := generation α
  stored := stored
  laidOut := laidOut

attribute [local instance] Platform.usual in
/-- A matrix with two rows is listed column by column, generated from a function of its indices, and laid out
row by row. -/
theorem storage_order_matrix :
    let matrix : Tensor Datum := .ofList [2, 3] ([0, 10, 1, 11, 2, 12].map .int) rfl
    let cell (index : Index) : Datum := .int (10 * index.getD 0 0 + index.getD 1 0)
    Datum.indices (.ofList [.int 2, .int 3]) = .ok [[0, 0], [1, 0], [0, 1], [1, 1], [0, 2], [1, 2]] ∧
      Shape.position [2, 3] [1, 2] = 5 ∧
      (∃ fault, fault.category = .index ∧ matrix.lookup [.int 1, .int (-1)] = .error fault) ∧
      generateM [2, 3] (fun index => .ok (cell index)) = (.ok matrix : Except Fault (Tensor Datum)) ∧
      matrix.lookup (Index.data [1, 2]) = .ok (cell [1, 2]) ∧
      ∃ nested, matrix.array = .ok nested ∧ nested.descend [1, 2] = some (.int 12) := by
  intro matrix cell
  have order := storage_order Datum
  have within : Within [1, 2] [2, 3] := by decide
  have unnamed : ∀ index, Within index matrix.shape → ¬index.Named [.number 1, .number (-1)] := by
    intro index _ named
    have last : (-1 : Int) ∈ index.map fun (coordinate : Nat) => (coordinate : Int) :=
      named ▸ List.mem_cons_of_mem _ List.mem_cons_self
    obtain ⟨coordinate, _, isLast⟩ := List.mem_map.1 last
    omega
  have generated : generateM [2, 3] (fun index => .ok (cell index)) =
      (.ok matrix : Except Fault (Tensor Datum)) := rfl
  obtain ⟨_, elements⟩ := ((order.generation [2, 3]).elements _ matrix).1 generated
  obtain ⟨element, isCell, found⟩ := elements [1, 2] within
  obtain rfl := Except.ok.inj isCell
  obtain ⟨nested, isNested⟩ := (order.laidOut matrix).possible ⟨by decide, by decide⟩ (by decide)
  exact ⟨(order.listing [.number 2, .number 3]).answered _ rfl (by decide),
    (((order.numbering [2, 3]).placed 5 [1, 2]).1 rfl).2, (order.stored matrix).outside _ unnamed,
    generated, found, nested, isNested,
    ((order.laidOut matrix).elements nested isNested [1, 2] rfl).trans (dif_pos within)⟩

attribute [local instance] Platform.usual in
/-- Below a number that does not fit into a machine word no coordinates are listed, although a second axis is
empty, so that the shape has no index at all; and a tensor can have more axes than an array. -/
theorem unlistable_empty_shape :
    let given : Datum := .ofList [.int 0x8000000000000000, .int 0]
    let shape : Shape := [.number 0x8000000000000000, 0]
    given.shape = .ok shape ∧ (∀ index, ¬Within index shape) ∧
      given.indices = .error .hugeAxis ∧ given.listedShape = .error .hugeAxis ∧
      ∃ crowded : Tensor Datum, crowded.array = .error (.tooManyAxes 64 65) := by
  intro given shape
  refine ⟨rfl, fun index within => ?_, rfl, rfl, .ofList (List.replicate 65 1) [.int 5] (by decide), rfl⟩
  have listed := Shape.mem_indices.2 within
  have nothing : shape.indices = [] := rfl
  rw [nothing] at listed
  cases listed

end Tensor

end TensorLogic
