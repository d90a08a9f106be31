/-
Module: TensorLogic.Tensor.Text
Purpose: How tensors are written, and their elements in nested lists.
Main exports: Tensor.describe, Tensor.text, Tensor.nested, Tensor.array
-/
import TensorLogic.Tensor.Basic
import TensorLogic.Tensor.Capacity

namespace TensorLogic.Tensor

variable {α : Type}

/-- The name of a tensor of some shape, without its elements.  The address of an object is left
open. -/
def describeShape (shape : Shape) : String :=
  "<Tensor 0x: shape " ++ countsText shape ++ ">"

/-- The name of a tensor without its elements. -/
def describe (tensor : Tensor α) : String := describeShape tensor.shape

/-- A tensor of data, written with its shape and its elements in storage order. -/
def text (tensor : Tensor Datum) : String :=
  "Tensor " ++ Datum.listText (tensor.shape.map Datum.ofCount) ++ " "
    ++ Datum.listText tensor.toList

/-- The elements below the given leading coordinates, nested axis by axis: the first coordinate
selects a member of the outermost list. -/
def nestedFrom (element : Index → Datum) : Shape → Index → Datum
  | [], index => element index
  | dimension :: shape, index =>
      .ofList ((List.range dimension.value).map fun coordinate =>
        nestedFrom element shape (index ++ [coordinate]))

/-- The elements of a tensor in nested lists, so that `[i, j]` is member `j` of member `i`.  A tensor
without axes is its element. -/
def nested (tensor : Tensor Datum) : Datum :=
  nestedFrom
    (fun index =>
      if within : Within index tensor.shape then tensor.get index within else .null)
    tensor.shape []

/-- The elements of a tensor in nested lists, by way of an array of its shape. -/
def array [Platform] (tensor : Tensor Datum) : Except Fault Datum := do
  tensor.shape.checkLayout
  pure tensor.nested

end TensorLogic.Tensor
