/-
Module: TensorLogic.Tensor.Pointwise
Purpose: Functions applied element by element, and folding of the leading axes.
Main exports: Tensor.map, Tensor.mapM, Tensor.map2, Tensor.slice, Tensor.fold
-/
import TensorLogic.Tensor.Basic

namespace TensorLogic

/-!
Functions are called in storage order, once for each element of the result.  They may be
computations that fail or change a state, so the order and the number of the calls matter.

The elements that share their trailing coordinates stand next to each other in storage, which is why
folding the leading axes is a matter of cutting the storage into pieces of equal length.
-/

namespace Tensor

variable {α β γ : Type} {m : Type → Type}

/-- The tensor of the values of a function at the elements. -/
def map (function : α → β) (tensor : Tensor α) : Tensor β :=
  ofList tensor.shape (tensor.toList.map function) (by simp)

@[simp]
theorem toList_map (function : α → β) (tensor : Tensor α) :
    (tensor.map function).toList = tensor.toList.map function := rfl

/-- The element of the image of a tensor is the image of its element. -/
theorem get_map (function : α → β) (tensor : Tensor α) (index : Index)
    (within : Within index tensor.shape) :
    (tensor.map function).get index within = function (tensor.get index within) := by
  have stored := getElem?_position (tensor.map function) index within
  have listed : (tensor.map function).toList[tensor.shape.position index]? =
      some (function (tensor.get index within)) := by
    rw [toList_map, List.getElem?_map, getElem?_position tensor index within]
    rfl
  exact Option.some.inj (stored.symm.trans listed)

/-- The tensor of the results of a computation at the elements. -/
def mapM [Monad m] (function : α → m β) (tensor : Tensor α) : m (Tensor β) := do
  let ⟨elements, counted⟩ ← visit function tensor.toList
  pure (ofList tensor.shape elements (by rw [counted, length_toList]))

/-- The tensor of the results of a computation at the pairs of elements of two tensors, whose shapes have
to agree.  It has the shape of the left one. -/
def map2 [Monad m] [MonadExceptOf Fault m] (function : α → β → m γ) (left : Tensor α)
    (right : Tensor β) : m (Tensor γ) :=
  if agree : Shape.Agree left.shape right.shape then do
    let ⟨elements, counted⟩ ← visit2 function left.toList right.toList
      (by simp [agree.size_eq])
    pure (ofList left.shape elements (by rw [counted, length_toList]))
  else throw (.shapeMismatch left.shape right.shape)

/-- The piece number `place` of the storage, if it is cut into pieces of the given length. -/
def slice (tensor : Tensor α) (length place : Nat) : List α :=
  (tensor.elems.extract (place * length) ((place + 1) * length)).toList

/-- The pieces of the storage of a tensor that belong to the places on its trailing axes, once `count`
leading axes are folded. -/
def slices (tensor : Tensor α) (count : Nat) : List (List α) :=
  (List.range (Shape.size (tensor.shape.drop count))).map
    (tensor.slice (Shape.size (tensor.shape.take count)))

/-- Fold the leading axes: the element of the result at an index is the result of a computation on
the list of all elements whose trailing coordinates are that index.  The elements are computed one by one, as
those of a generated tensor are, without a want of memory. -/
def fold [Monad m] [MonadExceptOf Fault m] (function : List α → m β) (count : Whole)
    (tensor : Tensor α) : m (Tensor β) :=
  if 0 ≤ count.value ∧ count.value ≤ tensor.order then do
    let ⟨elements, counted⟩ ← visit function (tensor.slices count.value.toNat)
    pure (ofList (tensor.shape.drop count.value.toNat) elements
      (by rw [counted, slices, List.length_map, List.length_range]))
  else throw (.foldCount count tensor.order)

end Tensor

end TensorLogic
