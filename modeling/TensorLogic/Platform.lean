/-
Module: TensorLogic.Platform
Purpose: The limits that an array library and a machine set, on axes and on memory.
Main exports: Platform, Platform.usual
-/
import TensorLogic.Fault

namespace TensorLogic

/-!
How many axes an array can have is up to the array library, and how many elements there is memory for is
up to the machine.  Neither is a property of tensors, so that the two are a parameter, and a theorem about
tensors holds on every platform.

Memory is idealised.  The only places that can want it are those where an amount is asked for at once, and
whether it is there depends on this amount alone and not on what else is stored.  These are the repetition
of data (`Datum.repeatedMembers`), an array filled with one element (`Shape.checkStorage`), the indices of
a shape (`Shape.checkRanges`) and the arrays between the steps of a rearrangement
(`Shape.checkCoordinates`, `Shape.checkBroadcast`).  What grows element by element, like the result of
`Tensor.generateM`, of `Tensor.fold` or of `Tensor.unstack`, is only limited by its own size, and so is a
number with many digits, like those of `Cnf.clauseCount`.
-/

/-- The limits of an array library and of a machine. -/
class Platform where
  /-- The largest number of axes of an array. -/
  axisLimit : Nat
  /-- The largest number of axes that elements can be gathered along. -/
  gatherLimit : Nat
  /-- From this number of elements on there is no memory for them. -/
  memoryLimit : Nat
  /-- Elements that there is memory for can be addressed by a machine word. -/
  memory_addressed : Fault.elementBytes * memoryLimit ≤ wordLimit

export Platform (axisLimit gatherLimit memoryLimit)

namespace Platform

/-- Arrays of at most 64 axes, gathered along at most 63 of them, and memory for less than 512 GiB of
elements. -/
abbrev usual : Platform where
  axisLimit := 64
  gatherLimit := 63
  memoryLimit := 0x1000000000
  memory_addressed := by decide

/-- A number of elements that there is memory for fits into a machine word. -/
theorem memoryLimit_le_wordLimit [Platform] : memoryLimit ≤ wordLimit := by
  have addressed := memory_addressed
  simp only [Fault.elementBytes] at addressed
  omega

end Platform

end TensorLogic
