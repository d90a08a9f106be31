/-
Module: TensorLogic.Tensor.Stack
Purpose: Putting tensors together along the last axis, and taking them apart again.
Main exports: Tensor.stackAll, Tensor.stack, Tensor.stackWith, Tensor.concat, Tensor.unstack
-/
import TensorLogic.Tensor.Pointwise

namespace TensorLogic

/-!
The last axis varies slowest, so tensors of one shape are stacked by writing their storage one after
the other, and a tensor is taken apart by cutting its storage.
-/

/-- An additional last axis multiplies the size. -/
theorem Shape.size_concat (shape : Shape) (dimension : Count) :
    Shape.size (shape ++ [dimension]) = Shape.size shape * dimension.value := by
  induction shape with
  | nil => simp [Shape.size]
  | cons first shape hypothesis =>
      rw [List.cons_append, Shape.size, hypothesis, Shape.size, Nat.mul_assoc]

/-- A non-empty shape is the other axes and the last one. -/
theorem Shape.size_eq_dropLast {shape : Shape} (nonempty : shape ≠ []) :
    Shape.size shape.dropLast * (shape.getLast nonempty).value = Shape.size shape := by
  rw [← Shape.size_concat, List.dropLast_concat_getLast]

namespace Tensor

variable {α : Type}

/-- Tensors whose shapes agree with the given one, written one after the other. -/
def stackAll (shape : Shape) (tensors : List (Tensor α))
    (agree : ∀ tensor ∈ tensors, Shape.Agree tensor.shape shape) : Tensor α :=
  ofList (shape ++ [.number tensors.length]) (tensors.flatMap toList) (by
    rw [Shape.size_concat, Count.value_number]
    induction tensors with
    | nil => simp
    | cons tensor tensors hypothesis =>
        have rest := hypothesis fun other member => agree other (List.mem_cons_of_mem _ member)
        rw [List.flatMap_cons, List.length_append, length_toList,
          (agree tensor List.mem_cons_self).size_eq, rest, List.length_cons, Nat.mul_add,
          Nat.mul_one, Nat.add_comm])

@[simp]
theorem toList_stackAll (shape : Shape) (tensors : List (Tensor α))
    (agree : ∀ tensor ∈ tensors, Shape.Agree tensor.shape shape) :
    (stackAll shape tensors agree).toList = tensors.flatMap toList := rfl

/-- Stack tensors along a new last axis.  Their shapes have to agree with the given one, or with that of
the first tensor; to stack no tensors, the shape has to be given. -/
def stack (tensors : List (Tensor α)) (dimensions : Option (List Whole)) :
    Except Fault (Tensor α) := do
  let shape ← match dimensions, tensors with
    | some dimensions, _ => Shape.ofWholes dimensions
    | none, tensor :: _ => pure tensor.shape
    | none, [] => .error .emptyStack
  match found : tensors.find? (fun tensor => ¬ Shape.Agree tensor.shape shape) with
  | some tensor => .error (.stackShape tensor.shape shape)
  | none =>
      .ok (stackAll shape tensors fun tensor member => by
        simpa using List.find?_eq_none.1 found tensor member)

/-- The shape that a stack of given things asks for: the given one, or that of the first tensor. -/
def stackShape {γ : Type} (read : γ → Except Fault (Tensor α)) (given : List γ)
    (dimensions : Option (List Whole)) : Except Fault Shape :=
  match dimensions, given with
  | some dimensions, _ => Shape.ofWholes dimensions
  | none, first :: _ => do pure (← read first).shape
  | none, [] => .error .emptyStack

/-- Stack what is given, reading each member as a tensor just before its shape is compared. -/
def stackWith {γ : Type} (read : γ → Except Fault (Tensor α)) (given : List γ)
    (dimensions : Option (List Whole)) : Except Fault (Tensor α) := do
  let shape ← stackShape read given dimensions
  let tensors ← given.mapM fun item => do
    let tensor ← read item
    if Shape.Agree tensor.shape shape then pure tensor
    else throw (.stackShape tensor.shape shape)
  stack tensors (some (shape.map Count.toWhole))

/-- Two tensors can be put together when both have a last axis and they agree on all others. -/
def Joinable (left right : Shape) : Prop :=
  left ≠ [] ∧ right ≠ [] ∧ Shape.Agree left.dropLast right.dropLast

instance (left right : Shape) : Decidable (Joinable left right) :=
  inferInstanceAs (Decidable (_ ∧ _ ∧ _))

/-- Shapes that can be put together have their sizes added. -/
theorem size_join {left right : Shape} (leftAxes : left ≠ []) (rightAxes : right ≠ [])
    (agree : Shape.Agree left.dropLast right.dropLast) :
    Shape.size (left.dropLast ++
        [.number ((left.getLast leftAxes).value + (right.getLast rightAxes).value)]) =
      Shape.size left + Shape.size right := by
  rw [Shape.size_concat, Count.value_number, Nat.mul_add, Shape.size_eq_dropLast leftAxes,
    agree.size_eq, Shape.size_eq_dropLast rightAxes]

/-- Two tensors put together along their last axes. -/
def joined (left right : Tensor α) (joinable : Joinable left.shape right.shape) : Tensor α :=
  ofList
    (left.shape.dropLast ++
      [.number ((left.shape.getLast joinable.1).value + (right.shape.getLast joinable.2.1).value)])
    (left.toList ++ right.toList) (by
      rw [List.length_append, length_toList, length_toList,
        size_join joinable.1 joinable.2.1 joinable.2.2])

/-- Put two tensors together along their last axes, where that is possible. -/
def concat (left right : Tensor α) : Except Fault (Tensor α) :=
  if joinable : Joinable left.shape right.shape then .ok (left.joined right joinable)
  else .error (.concatShapes left.shape right.shape)

/-- A piece of the storage that is cut off by the last axis has the size of the other axes. -/
theorem length_slice {tensor : Tensor α} {place : Nat} (nonempty : tensor.shape ≠ [])
    (bound : place < (tensor.shape.getLast nonempty).value) :
    (tensor.slice (Shape.size tensor.shape.dropLast) place).length =
      Shape.size tensor.shape.dropLast := by
  have enough : (place + 1) * Shape.size tensor.shape.dropLast ≤ tensor.elems.size := by
    rw [tensor.size_eq, ← Shape.size_eq_dropLast nonempty, Nat.mul_comm]
    exact Nat.mul_le_mul_left _ bound
  rw [slice, Array.length_toList, Array.size_extract, Nat.min_eq_left enough, ← Nat.sub_mul]
  simp

/-- The pieces that a tensor with a last axis is taken apart into. -/
def pieces (tensor : Tensor α) (nonempty : tensor.shape ≠ []) : List (Tensor α) :=
  List.ofFn fun place : Fin (tensor.shape.getLast nonempty).value =>
    ofList tensor.shape.dropLast (tensor.slice (Shape.size tensor.shape.dropLast) place)
      (length_slice nonempty place.isLt)

/-- The tensors that a tensor is stacked from.  They are made one by one, as the elements of a generated
tensor are, without a want of memory. -/
def unstack (tensor : Tensor α) : Except Fault (List (Tensor α)) :=
  if nonempty : tensor.shape ≠ [] then .ok (tensor.pieces nonempty) else .error .unstackScalar

end Tensor

end TensorLogic
