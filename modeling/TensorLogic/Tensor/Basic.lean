/-
Module: TensorLogic.Tensor.Basic
Purpose: Dense tensors: their storage, how they are built and how their elements are read.
Main exports: Tensor, Tensor.get, Tensor.generate, Tensor.generateM, Tensor.ofElems,
  Tensor.constant, Tensor.matrix, Tensor.lookup, Tensor.item, Tensor.set
-/
import TensorLogic.Position
import TensorLogic.Shape
import TensorLogic.Traversal

namespace TensorLogic

/-!
A tensor is a shape together with one element for each index, in storage order.  Whoever builds a
tensor proves that the number of elements is right; from then on every index within the shape has
its element, and no operation has to check again.
-/

/-- A dense tensor: its elements are stored in the order of `Shape.indices`. -/
structure Tensor (α : Type) where
  shape : Shape
  elems : Array α
  size_eq : elems.size = shape.size
deriving Repr, DecidableEq

namespace Tensor

variable {α β : Type}

/-- The number of axes. -/
def order (tensor : Tensor α) : Nat := tensor.shape.length

/-- The number of elements. -/
def size (tensor : Tensor α) : Nat := tensor.elems.size

/-- The elements in storage order. -/
def toList (tensor : Tensor α) : List α := tensor.elems.toList

/-- A tensor has as many elements as its shape says. -/
@[simp]
theorem length_toList (tensor : Tensor α) : tensor.toList.length = tensor.shape.size := by
  simp [toList, tensor.size_eq]

/-- Tensors are equal when their shapes and their elements in storage order are. -/
@[ext]
theorem ext_toList {left right : Tensor α} (shapes : left.shape = right.shape)
    (elements : left.toList = right.toList) : left = right := by
  cases left
  cases right
  simp only [toList, Array.toList_inj] at elements
  simp_all

/-- The tensor with the listed elements in storage order. -/
def ofList (shape : Shape) (elements : List α) (counted : elements.length = shape.size) :
    Tensor α :=
  ⟨shape, elements.toArray, by simp [counted]⟩

@[simp]
theorem toList_ofList (shape : Shape) (elements : List α)
    (counted : elements.length = shape.size) :
    (ofList shape elements counted).toList = elements := rfl

/-- The element at an index within the shape. -/
def get (tensor : Tensor α) (index : Index) (within : Within index tensor.shape) : α :=
  have bound : tensor.shape.position index < tensor.elems.size := by
    rw [tensor.size_eq]
    exact Shape.position_lt within
  tensor.elems[tensor.shape.position index]

/-- The element at an index stands at the place of the index in storage order. -/
theorem getElem?_position (tensor : Tensor α) (index : Index)
    (within : Within index tensor.shape) :
    tensor.toList[tensor.shape.position index]? = some (tensor.get index within) := by
  have bound : tensor.shape.position index < tensor.elems.size := by
    rw [tensor.size_eq]
    exact Shape.position_lt within
  simp [toList, get, bound]

/-- The tensor whose element at each index is the value of a function there. -/
def generate (shape : Shape) (function : (index : Index) → Within index shape → α) : Tensor α :=
  ofList shape
    (List.ofFn fun place : Fin shape.size =>
      function (shape.index place) (Shape.within_index place.isLt))
    (by simp)

/-- The element of a generated tensor is the value of the function at its index. -/
theorem get_generate (shape : Shape) (function : (index : Index) → Within index shape → α)
    (index : Index) (within : Within index shape) :
    (generate shape function).get index within = function index within := by
  have same : ∀ other (inside : Within other shape), other = index →
      function other inside = function index within := by
    rintro other inside rfl
    rfl
  have stored := getElem?_position (generate shape function) index within
  have bound : shape.position index < shape.size := Shape.position_lt within
  have listed : (generate shape function).toList[shape.position index]? =
      some (function (shape.index (shape.position index)) (Shape.within_index bound)) := by
    simp [generate, bound]
  rw [← same _ (Shape.within_index bound) (Shape.index_position within)]
  exact Option.some.inj (stored.symm.trans listed)

/-- The tensor whose elements are computed index by index, in storage order.  No amount of memory is asked for
at once, so that there is no want of it here; a result that is too large to exist is idealised. -/
def generateM {m : Type → Type} [Monad m] (shape : Shape) (function : Index → m α) :
    m (Tensor α) := do
  let ⟨elements, counted⟩ ← visit function shape.indices
  pure (ofList shape elements (by rw [counted, Shape.length_indices]))

/-- The tensor of a shape with the given elements in storage order.  Their number has to be the size
of the shape. -/
def ofElems (shape : Shape) (elements : List α) : Except Fault (Tensor α) :=
  if counted : elements.length = shape.size then .ok (ofList shape elements counted)
  else .error (.elementCount shape.size elements.length)

/-- The tensor of a shape whose elements are all the same. -/
def constant (shape : Shape) (value : α) : Tensor α :=
  ofList shape (List.replicate shape.size value) (by simp)

@[simp]
theorem toList_constant (shape : Shape) (value : α) :
    (constant shape value).toList = List.replicate shape.size value := rfl

/-- The tensor without axes that holds a value. -/
def scalar (value : α) : Tensor α := ofList [] [value] rfl

/-- The tensor with one axis that holds the given values. -/
def vector (values : List α) : Tensor α :=
  ofList [.number values.length] values (by simp [Shape.size])

/-- The number of columns of a list of rows that all have the same length; of no rows, none. -/
def columns? (rows : List (List α)) : Option Nat :=
  match rows with
  | [] => some 0
  | row :: rest => if rest.all (·.length == row.length) then some row.length else none

/-- The tensor with two axes whose element at `[i, j]` is the `j`th member of the `i`th row.  All
rows have to be of the same length. -/
def matrix (rows : List (List α)) : Except Fault (Tensor α) :=
  match columns? rows with
  | none => .error .raggedRows
  | some columns =>
      ofElems [.number rows.length, .number columns]
        ((List.range columns).flatMap fun column => rows.filterMap fun row => row[column]?)

/-- The element that a sequence of coordinates names. -/
def lookup (tensor : Tensor α) (index : List Datum) : Except Fault α := do
  let ⟨place, within⟩ ← tensor.shape.locate index
  pure (tensor.get place within)

/-- The element of a tensor that has only one. -/
def item (tensor : Tensor α) : Except Fault α :=
  match tensor.toList with
  | [element] => .ok element
  | _ => .error (.notSingle tensor.shape)

/-- The tensor with another element at an index, all others being kept. -/
def set (tensor : Tensor α) (index : Index) (within : Within index tensor.shape) (value : α) :
    Tensor α :=
  have bound : tensor.shape.position index < tensor.elems.size := by
    rw [tensor.size_eq]
    exact Shape.position_lt within
  ⟨tensor.shape, tensor.elems.set (tensor.shape.position index) value bound,
    by rw [Array.size_set]; exact tensor.size_eq⟩

/-- Only the element at the position of the index is replaced. -/
@[simp]
theorem toList_set (tensor : Tensor α) (index : Index) (within : Within index tensor.shape)
    (value : α) :
    (tensor.set index within value).toList =
      tensor.toList.set (tensor.shape.position index) value := by
  simp [set, toList]

/-- The tensor with another element at the place that a sequence of coordinates names. -/
def update (tensor : Tensor α) (value : α) (index : List Datum) : Except Fault (Tensor α) := do
  let ⟨place, within⟩ ← tensor.shape.locate index
  pure (tensor.set place within value)

end Tensor

end TensorLogic
