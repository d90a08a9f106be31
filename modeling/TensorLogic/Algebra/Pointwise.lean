/-
Module: TensorLogic.Algebra.Pointwise
Purpose: The operations of an algebra on tensors of its elements.
Main exports: BoolAlgebra.negTensor, BoolAlgebra.liftTensor, BoolAlgebra.connectiveTensor,
  BoolAlgebra.foldTensor
-/
import TensorLogic.Algebra.Operation
import TensorLogic.Tensor.Pointwise

namespace TensorLogic.BoolAlgebra

variable {σ V : Type}

/-- Negation, element by element. -/
def negTensor (algebra : BoolAlgebra σ V) (tensor : Tensor V) : Act σ (Tensor V) :=
  tensor.mapM algebra.neg

/-- The constants for the truth values that the elements count as. -/
def liftTensor (algebra : BoolAlgebra σ V) {α : Type} (truth : α → Bool) (tensor : Tensor α) :
    Tensor V :=
  tensor.map fun element => algebra.lift (truth element)

/-- A connective, element by element, on two tensors of the same shape. -/
def connectiveTensor (algebra : BoolAlgebra σ V) (connective : Connective)
    (left right : Tensor V) : Act σ (Tensor V) :=
  left.map2 (algebra.connective connective) right

/-- An operation on sequences, along the leading axes; along all of them if no number is given. -/
def foldTensor (algebra : BoolAlgebra σ V) (aggregate : Aggregate) (tensor : Tensor V)
    (count : Option Whole) : Act σ (Tensor V) :=
  tensor.fold (algebra.aggregate aggregate) (count.getD (.number tensor.order))

end TensorLogic.BoolAlgebra
