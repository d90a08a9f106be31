/-
Module: TensorLogic.Tensor.Layout
Purpose: Arrays that read their elements from a storage through strides.
Main exports: Layout, Layout.read, Layout.broadcast, Layout.copied, Tensor.layout, Shape.Stretches,
  Shape.Spreads, Tensor.repeated, Tensor.get_repeated
-/
import TensorLogic.Tensor.Basic

namespace TensorLogic

/-!
An array is a storage with one stride for each axis.  The element at an index stands in the storage at the
sum of the strides, each taken as often as its coordinate says, so that one storage serves arrays of many
shapes.  In storage order the stride of an axis is the product of the dimensions before it; an axis along
which the elements are repeated has the stride zero.
-/

namespace Layout

/-- Where an array with some strides has the element at an index. -/
def offset : List Nat → Index → Nat
  | stride :: strides, coordinate :: index => stride * coordinate + offset strides index
  | _, _ => 0

/-- Axes with the stride zero in front do not matter, nor do the coordinates on them. -/
theorem offset_prepend (count : Nat) (strides : List Nat) (index : Index) :
    offset (List.replicate count 0 ++ strides) index = offset strides (index.drop count) := by
  induction count generalizing index with
  | zero => rfl
  | succ count hypothesis =>
      cases index with
      | nil => cases strides <;> rfl
      | cons coordinate index =>
          simpa [List.replicate_succ, offset] using hypothesis index

end Layout

/-- The strides of storage order: the first of some axes has a given one, and each further axis that of the
axis before it, times the dimension there. -/
def Shape.strides (stride : Nat) : Shape → List Nat
  | [] => []
  | dimension :: shape => stride :: Shape.strides (stride * dimension.value) shape

/-- With these strides an element stands at the place of its index. -/
theorem Shape.offset_strides (stride : Nat) (shape : Shape) (index : Index) :
    Layout.offset (shape.strides stride) index = stride * shape.position index := by
  induction shape generalizing stride index with
  | nil => rfl
  | cons dimension shape hypothesis =>
      cases index with
      | nil => rfl
      | cons coordinate index =>
          simp only [Shape.strides, Layout.offset, position, hypothesis, Nat.mul_add, Nat.mul_assoc]

/-- An array: every index within its shape has an element in the storage. -/
structure Layout (α : Type) where
  shape : Shape
  strides : List Nat
  storage : Array α
  inside : ∀ index, Within index shape → Layout.offset strides index < storage.size

variable {α : Type}

/-- The array of a tensor, in storage order. -/
def Tensor.layout (tensor : Tensor α) : Layout α where
  shape := tensor.shape
  strides := tensor.shape.strides 1
  storage := tensor.elems
  inside := by
    intro index within
    rw [Shape.offset_strides, Nat.one_mul, tensor.size_eq]
    exact Shape.position_lt within

/-- One shape can be stretched to another one along axes of dimension one. -/
def Shape.Stretches : Shape → Shape → Prop
  | [], [] => True
  | dimension :: source, wanted :: target =>
      (dimension.value = 1 ∨ dimension.value = wanted.value) ∧ Stretches source target
  | _, _ => False

/-- An index of a stretched array, where it is stretched from: along an axis of dimension one there is a
single coordinate. -/
def Index.narrow : Shape → Index → Index
  | dimension :: shape, coordinate :: index =>
      (if dimension.value = 1 then 0 else coordinate) :: Index.narrow shape index
  | _, _ => []

namespace Shape

/-- A narrowed index lies within the shape that is stretched. -/
theorem Stretches.within_narrow {source target : Shape} {index : Index}
    (stretches : Stretches source target) (within : Within index target) :
    Within (Index.narrow source index) source := by
  induction source generalizing target index with
  | nil => exact trivial
  | cons dimension source hypothesis =>
      match target, index with
      | wanted :: target, coordinate :: index =>
          refine ⟨?_, hypothesis stretches.2 within.2⟩
          have bound : coordinate < wanted.value := within.1
          have fits := stretches.1
          split
          · omega
          · omega

/-- Along an axis of the same dimension, an index is narrowed to itself. -/
theorem Stretches.getD_narrow {source target : Shape} {index : Index} {axis : Nat}
    (stretches : Stretches source target) (within : Within index target)
    (same : source.values[axis]? = target.values[axis]?) :
    (Index.narrow source index).getD axis 0 = index.getD axis 0 := by
  induction source generalizing target index axis with
  | nil =>
      match target, index with
      | [], [] => rfl
  | cons dimension source hypothesis =>
      match target, index with
      | wanted :: target, coordinate :: index =>
          cases axis with
          | zero =>
              have bound : coordinate < wanted.value := within.1
              have equal : dimension.value = wanted.value := by simpa [values] using same
              simp only [Index.narrow, List.getD_cons_zero]
              split
              · omega
              · rfl
          | succ axis =>
              simpa [Index.narrow] using hypothesis stretches.2 within.2 (by simpa [values] using same)

/-- Stretching along some axes leaves those out on which the dimension is changed to one. -/
theorem stretches_mapIdx {change : Nat → Count → Count} {target : Shape}
    (fits : ∀ axis dimension, (change axis dimension).value = 1 ∨
      (change axis dimension).value = dimension.value) :
    Stretches (target.mapIdx change) target := by
  induction target generalizing change with
  | nil => exact trivial
  | cons dimension target hypothesis =>
      rw [List.mapIdx_cons]
      exact ⟨fits 0 dimension, hypothesis fun axis other => fits (axis + 1) other⟩

/-- Dimensions that are all one can be stretched to any shape. -/
theorem stretches_replicate (target : Shape) : Stretches (List.replicate target.length 1) target := by
  induction target with
  | nil => exact trivial
  | cons dimension target hypothesis => exact ⟨.inl rfl, hypothesis⟩

/-- A shape with axes of dimension one in front. -/
def prepend (count : Nat) (shape : Shape) : Shape := List.replicate count 1 ++ shape

/-- An index within a shape with axes of dimension one in front, without its coordinates on them. -/
theorem within_drop {count : Nat} {shape : Shape} {index : Index}
    (within : Within index (shape.prepend count)) : Within (index.drop count) shape := by
  induction count generalizing index with
  | zero => exact within
  | succ count hypothesis =>
      cases index with
      | nil => exact within.elim
      | cons coordinate index => exact hypothesis within.2

/-- A shape can be spread over another one: with axes in front as far as some are missing, it can be
stretched to it. -/
def Spreads (shape target : Shape) : Prop :=
  (shape.prepend (target.length - shape.length)).Stretches target

end Shape

namespace Layout

/-- The element at an index within the shape. -/
def read (layout : Layout α) (index : Index) (within : Within index layout.shape) : α :=
  have bound := layout.inside index within
  layout.storage[offset layout.strides index]

/-- An array whose axes have the dimensions one in front. -/
def prepend (layout : Layout α) (count : Nat) : Layout α where
  shape := layout.shape.prepend count
  strides := List.replicate count 0 ++ layout.strides
  storage := layout.storage
  inside := by
    intro index within
    rw [offset_prepend]
    exact layout.inside _ (Shape.within_drop within)

/-- Where axes of dimension one get the stride zero, an index stands where it is narrowed to. -/
theorem offset_narrow (shape : Shape) (strides : List Nat) (index : Index) :
    offset (List.zipWith (fun dimension stride => if dimension.value = 1 then 0 else stride) shape
      strides) index = offset strides (Index.narrow shape index) := by
  induction shape generalizing strides index with
  | nil => cases strides <;> rfl
  | cons dimension shape hypothesis =>
      match strides, index with
      | [], _ => cases index <;> rfl
      | _ :: _, [] => rfl
      | stride :: strides, coordinate :: index =>
          simp only [List.zipWith_cons_cons, offset, Index.narrow, hypothesis]
          split <;> simp

/-- An array whose elements are repeated along axes of dimension one. -/
def stretch (layout : Layout α) (target : Shape) (stretches : layout.shape.Stretches target) :
    Layout α where
  shape := target
  strides := List.zipWith (fun dimension stride => if dimension.value = 1 then 0 else stride)
    layout.shape layout.strides
  storage := layout.storage
  inside := by
    intro index within
    rw [offset_narrow]
    exact layout.inside _ (stretches.within_narrow within)

/-- An array that is repeated over a shape: along axes in front, and along those of dimension one. -/
def broadcast (layout : Layout α) (target : Shape) (spreads : layout.shape.Spreads target) : Layout α :=
  (layout.prepend (target.length - layout.shape.length)).stretch target spreads

/-- The tensor of the elements of an array, copied into storage order. -/
def copied (layout : Layout α) : Tensor α := .generate layout.shape layout.read

/-- The array of a tensor has its elements. -/
theorem read_layout (tensor : Tensor α) (index : Index) (within : Within index tensor.shape) :
    tensor.layout.read index within = tensor.get index within := by
  have same : offset (tensor.shape.strides 1) index = tensor.shape.position index := by
    rw [Shape.offset_strides, Nat.one_mul]
  simp only [read, Tensor.get, Tensor.layout, same]

theorem read_prepend (layout : Layout α) (count : Nat) (index : Index)
    (within : Within index (layout.prepend count).shape) :
    (layout.prepend count).read index within =
      layout.read (index.drop count) (Shape.within_drop within) := by
  simp only [read, prepend, offset_prepend]

/-- A stretched layout is read at the index that has zero on the axes of dimension one. -/
theorem read_stretch (layout : Layout α) (target : Shape)
    (stretches : layout.shape.Stretches target) (index : Index) (within : Within index target) :
    (layout.stretch target stretches).read index within =
      layout.read (Index.narrow layout.shape index) (stretches.within_narrow within) := by
  simp only [read, stretch, offset_narrow]

end Layout

/-- Narrowing an index and leaving axes out in front can be exchanged. -/
theorem Index.drop_narrow (count : Nat) (shape : Shape) (index : Index) :
    (Index.narrow (shape.prepend count) index).drop count = Index.narrow shape (index.drop count) := by
  induction count generalizing index with
  | zero => rfl
  | succ count hypothesis =>
      cases index with
      | nil => cases shape <;> rfl
      | cons coordinate index =>
          simpa [Shape.prepend, List.replicate_succ, narrow] using hypothesis index

/-- The index in a shape that an index in the shape it is spread over comes from. -/
def Index.source (shape target : Shape) (index : Index) : Index :=
  Index.narrow shape (index.drop (target.length - shape.length))

/-- The index that an element is spread from lies within the shape that is spread. -/
theorem Shape.Spreads.within_source {shape target : Shape} {index : Index}
    (spreads : shape.Spreads target) (within : Within index target) :
    Within (Index.source shape target index) shape := by
  rw [Index.source, ← Index.drop_narrow]
  exact within_drop (Stretches.within_narrow spreads within)

namespace Tensor

/-- Elements at equal indices are equal. -/
theorem get_congr (tensor : Tensor α) {index other : Index} (same : index = other)
    (within : Within index tensor.shape) :
    tensor.get index within = tensor.get other (same ▸ within) := by
  subst same
  rfl

/-- The tensor that is repeated over a shape: its array is broadcast, and copied. -/
def repeated (tensor : Tensor α) (target : Shape) (spreads : tensor.shape.Spreads target) : Tensor α :=
  (tensor.layout.broadcast target spreads).copied

/-- The elements of a repeated tensor are those of the tensor, where the coordinates on the axes that are
repeated do not matter. -/
theorem get_repeated (tensor : Tensor α) (target : Shape) (spreads : tensor.shape.Spreads target)
    (index : Index) (within : Within index target) :
    (tensor.repeated target spreads).get index within =
      tensor.get (Index.source tensor.shape target index) (spreads.within_source within) :=
  have narrowed := Shape.Stretches.within_narrow spreads within
  calc (tensor.repeated target spreads).get index within
    _ = (tensor.layout.broadcast target spreads).read index within := get_generate _ _ _ _
    _ = (tensor.layout.prepend _).read _ narrowed := Layout.read_stretch _ _ _ _ _
    _ = tensor.layout.read _ (Shape.within_drop narrowed) := Layout.read_prepend _ _ _ _
    _ = tensor.get _ (Shape.within_drop narrowed) := Layout.read_layout _ _ _
    _ = tensor.get (Index.source tensor.shape target index) (spreads.within_source within) :=
        tensor.get_congr (Index.drop_narrow _ _ _) _

end Tensor

end TensorLogic
