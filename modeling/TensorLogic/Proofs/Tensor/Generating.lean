/-
Module: TensorLogic.Proofs.Tensor.Generating
Purpose: Generating a tensor calls the function at each index in storage order, and stores what it returns.
Main exports: map_visit, Tensor.lookup_eq_ok_iff, Tensor.forall₂_toList, Tensor.map_generateM,
  Tensor.generateM_eq_ok_iff, Tensor.exists_generateM
-/
import TensorLogic.Proofs.Effect.Outcome
import TensorLogic.Proofs.Tensor.Reindexing

namespace TensorLogic

/-- A visit calls its function on the members one after the other. -/
theorem map_visit {m : Type → Type} [Monad m] [LawfulMonad m] {α β : Type} (function : α → m β)
    (members : List α) :
    (fun results => results.val) <$> visit function members = members.mapM function := by
  induction members with
  | nil => simp [visit]
  | cons member members hypothesis =>
      simp [visit, List.mapM_cons, ← hypothesis, map_bind]

/-- A visit that calls a function without effects lists its values. -/
theorem visit_pure {m : Type → Type} [Monad m] [LawfulMonad m] {α β : Type} (value : α → β)
    (members : List α) :
    visit (fun member => (pure (value member) : m β)) members =
      pure ⟨members.map value, List.length_map value⟩ := by
  induction members with
  | nil => simp [visit]
  | cons member members hypothesis => simp [visit, hypothesis]

/-- Lists that are related by a function that may have no value are related by other such functions as
well when these have the same values. -/
theorem forall₂_iff_of_forall₂ {α β : Type} {Value Other : α → β → Prop} (unique : Relator.RightUnique Value)
    {members : List α} {results : List β} (related : List.Forall₂ Value members results) :
    List.Forall₂ Other members results ↔
      ∀ member ∈ members, ∃ result, Other member result ∧ Value member result := by
  induction related with
  | nil => simp
  | @cons member result members results isValue _ hypothesis =>
      rw [List.forall₂_cons, hypothesis, List.forall_mem_cons]
      refine and_congr_left fun _ => ⟨fun isOther => ⟨result, isOther, isValue⟩, ?_⟩
      rintro ⟨other, isOther, isValueToo⟩
      rwa [unique isValue isValueToo]

namespace Tensor

variable {α : Type} {tensor : Tensor α} {shape : Shape}

theorem lookup_eq_ok_iff {index : Index} (within : Within index tensor.shape) {element : α} :
    tensor.lookup index.data = .ok element ↔
      tensor.toList[tensor.shape.position index]? = some element := by
  simp [lookup_data tensor within, getElem?_position tensor index within]

/-- The elements of a tensor stand in its storage in the order of the indices. -/
theorem forall₂_toList (tensor : Tensor α) :
    List.Forall₂ (fun (index : Index) element => tensor.lookup index.data = .ok element)
      tensor.shape.indices tensor.toList := by
  rw [Shape.indices, List.forall₂_map_left_iff, List.forall₂_iff_get]
  constructor
  · rw [List.length_range, length_toList]
  · intro place inRange inStorage
    have bound : place < tensor.shape.size := by rwa [List.length_range] at inRange
    rw [List.get_eq_getElem, List.getElem_range, lookup_eq_ok_iff (Shape.within_index bound),
      Shape.position_index bound]
    exact List.getElem?_eq_getElem inStorage

/-- A tensor is told by its shape and its elements, also where it is the result of a computation. -/
theorem eq_ok_iff_map {outcome : Except Fault (Tensor α)} {result : Tensor α} :
    outcome = .ok result ↔
      (fun found : Tensor α => (found.shape, found.toList)) <$> outcome =
        .ok (result.shape, result.toList) := by
  constructor
  · rintro rfl
    rfl
  · intro same
    rcases Outcome.map_eq_ok_iff.1 same with ⟨found, rfl, parts⟩
    simp only [Prod.mk.injEq] at parts
    rw [ext_toList parts.1 parts.2]

/-- Looking up all indices in turn lists the elements in storage order. -/
theorem mapM_lookup (tensor : Tensor α) :
    (tensor.shape.indices.mapM fun index => tensor.lookup index.data) = .ok tensor.toList :=
  Outcome.mapM_eq_ok_iff.2 (forall₂_toList tensor)

/-- To generate a tensor, the function is called at the indices of its shape one after the other. -/
theorem map_generateM {m : Type → Type} [Monad m] [LawfulMonad m] (shape : Shape)
    (function : Index → m α) :
    (fun tensor => (tensor.shape, tensor.toList)) <$> generateM shape function =
      (fun elements => (shape, elements)) <$> shape.indices.mapM function := by
  simp [generateM, ← map_visit, ofList, toList]

/-- A tensor is generated exactly if the function has its elements as values, index by index. -/
theorem generateM_eq_ok_iff_mapM {function : Index → Except Fault α} :
    generateM shape function = .ok tensor ↔
      tensor.shape = shape ∧ shape.indices.mapM function = .ok tensor.toList := by
  rw [eq_ok_iff_map, map_generateM]
  constructor
  · intro same
    rcases Outcome.map_eq_ok_iff.1 same with ⟨elements, called, parts⟩
    simp only [Prod.mk.injEq] at parts
    exact ⟨parts.1.symm, parts.2 ▸ called⟩
  · rintro ⟨rfl, called⟩
    rw [called]
    rfl

/-- A generated tensor has the value of the function at each index. -/
theorem generateM_eq_ok_iff {function : Index → Except Fault α} :
    generateM shape function = .ok tensor ↔
      tensor.shape = shape ∧ ∀ index, Within index shape →
        ∃ element, function index = .ok element ∧ tensor.lookup index.data = .ok element := by
  have unique : Relator.RightUnique fun (index : Index) (element : α) =>
      tensor.lookup index.data = .ok element :=
    fun _ _ _ isElement isOther => Except.ok.inj (isElement.symm.trans isOther)
  rw [generateM_eq_ok_iff_mapM]
  refine and_congr_right fun isShape => ?_
  subst isShape
  rw [Outcome.mapM_eq_ok_iff, forall₂_iff_of_forall₂ unique (forall₂_toList tensor)]
  simp only [Shape.mem_indices]

/-- A tensor can be generated where the function has a value at every index, and has these as its elements. -/
theorem exists_generateM {function : Index → Except Fault α}
    (each : ∀ index, Within index shape → ∃ element, function index = .ok element) :
    ∃ tensor : Tensor α, generateM shape function = .ok tensor ∧ tensor.shape = shape ∧
      ∀ index, Within index shape → tensor.lookup index.data = function index := by
  have eachListed : ∀ index ∈ shape.indices, ∃ element, function index = .ok element :=
    fun index member => each index (Shape.mem_indices.1 member)
  obtain ⟨elements, called⟩ := Outcome.exists_mapM eachListed
  have counted : elements.length = shape.size := by
    rw [← (Outcome.mapM_eq_ok_iff.1 called).length_eq, Shape.length_indices]
  have generated : generateM shape function = .ok (ofList shape elements counted) :=
    generateM_eq_ok_iff_mapM.2 ⟨rfl, called⟩
  refine ⟨_, generated, rfl, fun index within => ?_⟩
  obtain ⟨element, isElement, found⟩ := (generateM_eq_ok_iff.1 generated).2 index within
  rw [found, isElement]

end Tensor

end TensorLogic
