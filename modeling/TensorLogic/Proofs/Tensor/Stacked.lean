/-
Module: TensorLogic.Proofs.Tensor.Stacked
Purpose: Taking a stack of tensors apart gives them back.
Main exports: Shape.ofWholes_toWhole, Tensor.unstack_stackAll
-/
import TensorLogic.Proofs.Tensor.Natural

namespace TensorLogic

/-- Dimensions that are written as whole numbers are read back as they were. -/
theorem Shape.ofWholes_toWhole (shape : Shape) :
    Shape.ofWholes (shape.map Count.toWhole) = .ok shape := by
  have read : (shape.map Count.toWhole).mapM Whole.count? = some shape := by
    induction shape with
    | nil => rfl
    | cons dimension shape hypothesis =>
        have isCount : dimension.toWhole.count? = some dimension :=
          Whole.count?_eq_some_iff.2 rfl
        rw [List.map_cons, List.mapM_cons, isCount, hypothesis]
        rfl
  unfold Shape.ofWholes
  rw [read]

namespace Tensor

variable {α : Type}

/-- Where pieces of one length are written one after the other, each of them can be cut out again. -/
theorem extract_flatMap {size : Nat} (tensors : List (Tensor α))
    (counted : ∀ tensor ∈ tensors, tensor.toList.length = size) (place : Nat)
    (bound : place < tensors.length) :
    ((tensors.flatMap toList).drop (place * size)).take size = tensors[place].toList := by
  induction tensors generalizing place with
  | nil => cases bound
  | cons tensor tensors hypothesis =>
      have first : tensor.toList.length = size := counted tensor List.mem_cons_self
      cases place with
      | zero =>
          rw [Nat.zero_mul, List.drop_zero, List.flatMap_cons, ← first, List.take_left]
          rfl
      | succ place =>
          have rest := hypothesis (fun other inside => counted other (List.mem_cons_of_mem _ inside))
            place (Nat.lt_of_succ_lt_succ bound)
          rw [List.flatMap_cons, Nat.succ_mul, Nat.add_comm, ← List.drop_drop]
          rw [← first, List.drop_left, first, rest]
          rfl

/-- A stack of tensors of one shape is taken apart into them. -/
theorem unstack_stackAll {shape : Shape} {tensors : List (Tensor α)}
    (sameShape : ∀ tensor ∈ tensors, tensor.shape = shape)
    (agree : ∀ tensor ∈ tensors, Shape.Agree tensor.shape shape) :
    (stackAll shape tensors agree).unstack = .ok tensors := by
  have isShape : (stackAll shape tensors agree).shape = shape ++ [.number tensors.length] := rfl
  have nonempty : (stackAll shape tensors agree).shape ≠ [] := by simp [isShape]
  rw [unstack_of_nonempty nonempty]
  apply congrArg Except.ok
  have others : (stackAll shape tensors agree).shape.dropLast = shape := by
    rw [isShape, List.dropLast_concat]
  have last : ((stackAll shape tensors agree).shape.getLast nonempty).value = tensors.length := by
    simp [isShape]
  apply List.ext_getElem
  · rw [pieces, List.length_ofFn, last]
  · intro place inside bound
    have counted : ∀ tensor ∈ tensors, tensor.toList.length = shape.size := by
      intro tensor member
      rw [length_toList, sameShape tensor member]
    simp only [pieces, List.getElem_ofFn]
    apply ext_toList
    · change (stackAll shape tensors agree).shape.dropLast = tensors[place].shape
      rw [others, sameShape _ (List.getElem_mem bound)]
    · rw [toList_ofList, others]
      change ((tensors.flatMap toList).toArray.extract _ _).toList = _
      rw [Array.toList_extract, List.extract_eq_take_drop]
      have extent : (place + 1) * shape.size - place * shape.size = shape.size := by
        rw [Nat.succ_mul, Nat.add_sub_cancel_left]
      rw [extent]
      exact extract_flatMap tensors counted place bound

end Tensor

end TensorLogic
