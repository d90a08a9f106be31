/-
Module: TensorLogic.Proofs.Tensor.Locating
Purpose: Which element an index in whole numbers names, and what becomes of the elements when that one is
  replaced.
Main exports: Index.Named, Shape.locate_named, Shape.locate_unnamed, Tensor.get_set,
  Tensor.Replaces, Tensor.replaces_set
-/
import TensorLogic.Proofs.Tensor.Elements

namespace TensorLogic

/-- Whole numbers name an index when they are its coordinates. -/
def Index.Named (index : Index) (given : List Whole) : Prop :=
  given.map Whole.value = index.map fun (coordinate : Nat) => (coordinate : Int)

namespace Index.Named

variable {index other : Index} {given : List Whole}

theorem length_eq (named : index.Named given) : given.length = index.length := by
  simpa using congrArg List.length named

/-- Numbers name an index axis by axis. -/
theorem cons_iff {coordinate : Nat} {whole : Whole} :
    Named (coordinate :: index) (whole :: given) ↔ whole.value = coordinate ∧ index.Named given := by
  simp [Named]

end Index.Named

namespace Shape

/-- A whole number names a place on an axis, or lies outside. -/
theorem coordinate?_ofWhole (dimension : Nat) (whole : Whole) :
    coordinate? dimension (.ofWhole whole) =
      if inside : 0 ≤ whole.value ∧ whole.value.toNat < dimension then
        .ok (some (.place ⟨whole.value.toNat, inside.2⟩))
      else .ok none := by
  have isWhole : (Datum.ofWhole whole).integer? = some whole.value := by
    simp [Datum.integer?, Datum.whole?, Datum.ofWhole, Scalar.whole?_ofWhole]
  unfold coordinate?
  rw [isWhole]

variable {shape : Shape} {wholes : List Whole}

/-- Coordinates that name an index within a shape are read as that index. -/
theorem coordinates_named {index : Index} (within : Within index shape) (named : index.Named wholes)
    (given : List Datum) (whole : Shape) :
    coordinates given whole shape (wholes.map .ofWhole) = .ok (some ⟨index, within⟩) := by
  induction shape generalizing index wholes with
  | nil =>
      cases index with
      | nil =>
          obtain rfl := List.eq_nil_of_length_eq_zero named.length_eq
          rfl
      | cons => exact within.elim
  | cons dimension shape hypothesis =>
      cases index with
      | nil => exact within.elim
      | cons coordinate index =>
          cases wholes with
          | nil => cases named.length_eq
          | cons first wholes =>
              rcases Index.Named.cons_iff.1 named with ⟨isFirst, rest⟩
              have isPlace : first.value.toNat = coordinate := by omega
              have inside : 0 ≤ first.value ∧ first.value.toNat < dimension.value :=
                ⟨by omega, isPlace ▸ within.1⟩
              have here := (coordinate?_ofWhole dimension.value first).trans (dif_pos inside)
              simp only [List.map_cons, coordinates, here, hypothesis within.2 rest, isPlace]

/-- Coordinates that name no index within a shape are not read. -/
theorem coordinates_unnamed (unnamed : ∀ index, Within index shape → ¬ index.Named wholes)
    (given : List Datum) (whole : Shape) :
    ∃ fault, fault.category = .index ∧
      coordinates given whole shape (wholes.map .ofWhole) = .error fault := by
  induction shape generalizing wholes with
  | nil =>
      cases wholes with
      | nil => exact (unnamed [] trivial rfl).elim
      | cons first wholes => exact ⟨.indexLength given whole, rfl, rfl⟩
  | cons dimension shape hypothesis =>
      cases wholes with
      | nil => exact ⟨.indexLength given whole, rfl, rfl⟩
      | cons first wholes =>
          by_cases inside : 0 ≤ first.value ∧ first.value.toNat < dimension.value
          · have later : ∀ index, Within index shape → ¬ index.Named wholes := by
              intro index within named
              refine unnamed (first.value.toNat :: index) ⟨inside.2, within⟩ ?_
              exact Index.Named.cons_iff.2 ⟨by omega, named⟩
            rcases hypothesis later with ⟨fault, isIndex, failed⟩
            have here := (coordinate?_ofWhole dimension.value first).trans (dif_pos inside)
            refine ⟨fault, isIndex, ?_⟩
            simp only [List.map_cons, coordinates, here, failed]
          · have here := (coordinate?_ofWhole dimension.value first).trans (dif_neg inside)
            refine ⟨.indexRange given whole, rfl, ?_⟩
            simp only [List.map_cons, coordinates, here]

/-- Whole numbers that name an index within a shape locate it. -/
theorem locate_named {index : Index} (within : Within index shape) (named : index.Named wholes) :
    shape.locate (wholes.map .ofWhole) = .ok ⟨index, within⟩ := by
  have counted : (wholes.map Datum.ofWhole).length = shape.length := by
    rw [List.length_map, named.length_eq, length_eq_of_within within]
  unfold locate
  rw [if_pos counted, coordinates_named within named]

/-- Whole numbers that name no index within a shape are refused. -/
theorem locate_unnamed (unnamed : ∀ index, Within index shape → ¬ index.Named wholes) :
    ∃ fault, fault.category = .index ∧ shape.locate (wholes.map .ofWhole) = .error fault := by
  unfold locate
  split
  · rcases coordinates_unnamed unnamed (wholes.map .ofWhole) shape with ⟨fault, isIndex, failed⟩
    exact ⟨fault, isIndex, by rw [failed]⟩
  · exact ⟨_, rfl, rfl⟩

end Shape

namespace Tensor

variable {α : Type}

/-- Where one element is replaced, the others are kept. -/
theorem get_set (tensor : Tensor α) {index : Index} (within : Within index tensor.shape) (value : α)
    {other : Index} (inside : Within other tensor.shape) :
    (tensor.set index within value).get other inside =
      if other = index then value else tensor.get other inside := by
  have stored := getElem?_position (tensor.set index within value) other inside
  have before := getElem?_position tensor other inside
  rw [toList_set] at stored
  change (tensor.toList.set _ _)[tensor.shape.position other]? = _ at stored
  by_cases same : other = index
  · subst same
    have bound : tensor.shape.position other < tensor.toList.length := by
      rw [length_toList]
      exact Shape.position_lt within
    rw [List.getElem?_set_self bound] at stored
    rw [if_pos rfl]
    exact (Option.some.inj stored).symm
  · have apart : tensor.shape.position index ≠ tensor.shape.position other := by
      intro samePlace
      apply same
      rw [← Shape.index_position inside, ← samePlace, Shape.index_position within]
    rw [List.getElem?_set_ne apart, before] at stored
    rw [if_neg same]
    exact (Option.some.inj stored).symm

/-- One element of a tensor is another one, and everything else is as it was. -/
structure Replaces (before : Tensor α) (index : Index) (value : α) (after : Tensor α) : Prop where
  shape : after.shape = before.shape
  element : ∀ (other : Index) (inside : Within other before.shape) (stays : Within other after.shape),
    after.get other stays = if other = index then value else before.get other inside

/-- Setting an element replaces it, and it alone. -/
theorem replaces_set (tensor : Tensor α) {index : Index} (within : Within index tensor.shape)
    (value : α) : tensor.Replaces index value (tensor.set index within value) where
  shape := rfl
  element := fun _ inside _ => tensor.get_set within value inside

end Tensor

end TensorLogic
