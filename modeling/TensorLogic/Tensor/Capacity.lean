/-
Module: TensorLogic.Tensor.Capacity
Purpose: The limits within which a tensor can be laid out as an array, and spread over another shape.
Main exports: Shape.checkLayout, Shape.checkGather, Shape.checkBroadcast, Shape.checkStorage,
  Shape.checkRanges
-/
import TensorLogic.Platform
import TensorLogic.Shape

namespace TensorLogic.Shape

/-!
A tensor may have any number of axes and, as long as one of them is empty, dimensions of any size.  To
rearrange its elements it is laid out as an array, and an array has limits: on its axes, on each
dimension, and on the number of elements that the dimensions multiply up to.  A dimension of an array is a
number; a truth value will not do.
-/

variable [Platform]

/-- The number of axes has to be within the limit. -/
def checkAxes (shape : Shape) : Except Fault Unit :=
  if axisLimit < shape.length then .error (.tooManyAxes axisLimit shape.length) else .ok ()

/-- Every dimension has to be given as a number, which has to fit into a machine word.  The first
dimension that does not decides. -/
def checkDimensions (huge : Fault) : Shape → Except Fault Unit
  | [] => .ok ()
  | .truth _ :: _ => .error .wrongType
  | .number dimension :: shape =>
      if wordLimit ≤ dimension then .error huge else checkDimensions huge shape

/-- Whether the dimensions, multiplied one after the other, leave the range of a machine word.  Behind an
empty axis they do not any more. -/
def overflows (product : Nat) : Shape → Bool
  | [] => false
  | dimension :: shape =>
      wordLimit ≤ product * dimension.value || overflows (product * dimension.value) shape

/-- The number of elements, leaving empty axes aside. -/
def extent : Shape → Nat
  | [] => 1
  | dimension :: shape => (if dimension.value = 0 then 1 else dimension.value) * extent shape

/-- The storage of an array has to fit into an address space. -/
def checkExtent (shape : Shape) : Except Fault Unit :=
  if wordLimit ≤ Fault.elementBytes * shape.extent then .error .storageOverflow else .ok ()

/-- There has to be memory for all elements, and their number has to fit into a machine word. -/
def checkStorage (shape : Shape) : Except Fault Unit :=
  if wordLimit ≤ shape.size then .error .hugeSize
  else if memoryLimit ≤ shape.size then .error .outOfMemory
  else .ok ()

/-- The elements of a tensor can be laid out as an array of its own shape. -/
def checkLayout (shape : Shape) : Except Fault Unit := do
  checkAxes shape
  checkDimensions .hugeDimension shape
  if overflows 1 shape then .error (.layoutOverflow shape.size shape) else checkExtent shape

/-- A number, converted to binary floating point and back. -/
def rounded (number : Nat) : Nat := (Binary64.nearest false number 1).exact.ceiling.toNat

/-- Binary floating point has 53 digits, and a tie goes to the even neighbour. -/
example :
    rounded 0x20000000000001 = 0x20000000000000 ∧ rounded 0x20000000000003 = 0x20000000000004 := by
  decide +kernel

/-- The numbers from zero up to a dimension can be listed in an array.  The dimension is converted to binary
floating point first, so that the limits hold for what it is rounded to; exactly at the limit of a word the
list comes out empty. -/
def checkCoordinates (dimension : Nat) : Except Fault Bool :=
  let listed := rounded dimension
  if wordLimit < listed then .error .hugeRange
  else if wordLimit = listed then .ok false
  else if wordLimit ≤ Fault.elementBytes * listed then .error .storageOverflow
  else if memoryLimit ≤ listed then .error (.arrayMemory listed "int64")
  else .ok true

/-- The coordinates on one axis of a new shape can be laid out along that axis, all other dimensions being
one. -/
def checkAxis (target : Shape) (axis : Nat) (dimension : Count) : Except Fault Unit := do
  let isListed ← checkCoordinates dimension.value
  checkAxes target
  let line := (target.map fun _ => (1 : Count)).set axis dimension
  checkDimensions .hugeDimension line
  if isListed then .ok () else .error (.layoutOverflow 0 line)

/-- Elements with so many coordinates can be gathered over a new shape. -/
def checkGather (target : Shape) (order : Nat) : Except Fault Unit := do
  target.zipIdx.forM fun (dimension, axis) => checkAxis target axis dimension
  if gatherLimit < order then .error (.tooManyGathered gatherLimit order) else .ok ()

/-- Elements can be repeated over a new shape. -/
def checkBroadcast (target : Shape) : Except Fault Unit := do
  checkAxes target
  checkDimensions .hugeDimension target
  if overflows 1 target then .error .broadcastOverflow else checkExtent target
  if memoryLimit ≤ target.size then .error (.arrayMemory target.size "object") else .ok ()

/-- The coordinates on the axes of a shape can be listed.  The last axis is the first to be looked at. -/
def checkRanges (dimensions : List Whole) : Except Fault Unit :=
  dimensions.reverse.forM fun dimension =>
    if (wordLimit : Int) ≤ dimension.value then .error .hugeAxis
    else if (memoryLimit : Int) ≤ dimension.value then .error .outOfMemory
    else .ok ()

/-- The elements of a tensor can be spread over a new shape.  A tensor without axes has nothing to be
gathered along. -/
def checkSpread (source target : Shape) : Except Fault Unit := do
  checkLayout source
  if source.isEmpty then .ok () else checkGather target source.length
  checkBroadcast target

end TensorLogic.Shape
