/-
Module: TensorLogic.Argument
Purpose: Arguments of undeclared type, read as what an operation asks for.
Main exports: readToken, Datum.truncated, Datum.sequence, Datum.whole, Datum.wholes,
  Datum.coordinates, Datum.wordIndex, Datum.shape, Datum.indices, Datum.listedShape, Datum.labels,
  Tensor.ofData, Tensor.constantOfData, Tensor.vectorOfData, Tensor.matrixOfData,
  Tensor.reshapeOfData, Tensor.diagonalOfData, Tensor.placed, Tensor.isKept
-/
import TensorLogic.Tensor.Reshape
import TensorLogic.Text.Blank

namespace TensorLogic

/-!
An argument of the wrong type is a fault of its own, which is found before the values are looked at.
Where an operation has several such arguments they are read one after the other, each completely.
-/

/-- The whole number that a token stands for. -/
def readToken (token : List Char) : Except Fault Int :=
  match Text.readNumeral (Text.strip token) with
  | .ok value => .ok value
  | .error .malformed => .error (.notNumeral (String.ofList token))
  | .error (.tooLong digits) => .error (.numeralLength digits)

namespace Datum

/-- The whole number that a datum is converted to.  The fraction of a number is dropped, and a text is read
as a numeral. -/
def truncated : Datum → Except Fault Int
  | scalar _ (.str text) => readToken text.toList
  | scalar _ (.fraction .undefined) => .error .undefinedWhole
  | scalar _ (.fraction (.infinite _)) => .error .infiniteWhole
  | scalar _ (.fraction (.finite number)) => .ok number.exact.truncate
  | datum =>
      match datum.integer? with
      | some number => .ok number
      | none => .error .wrongType

/-- The members of a sequence. -/
def sequence (datum : Datum) : Except Fault (List Datum) :=
  match datum.items? with
  | some items => .ok items
  | none => .error .wrongType

/-- A whole number. -/
def whole (datum : Datum) : Except Fault Whole :=
  match datum.whole? with
  | some value => .ok value
  | none => .error .wrongType

/-- The members of a sequence of whole numbers. -/
def wholes (datum : Datum) : Except Fault (List Whole) := do
  (← datum.sequence).mapM whole

/-- The coordinates of an index, which is a sequence of them or a single whole number. -/
def coordinates (index : Datum) : Except Fault (List Datum) :=
  match index.integer? with
  | some coordinate => .ok [.int coordinate]
  | none => index.sequence

/-- An index, which is converted to a machine word unless it is a sequence of coordinates. -/
def wordIndex (index : Datum) : Except Fault Datum :=
  match index with
  | .list .. => .ok index
  | single => do
      let word ← single.truncated
      if word < -Position.limit || Position.limit ≤ word then .error .hugeWord else .ok (.int word)

/-- A shape. -/
def shape (datum : Datum) : Except Fault Shape := do
  Shape.ofWholes (← datum.wholes)

/-- All indices below given numbers.  A negative number has none below it. -/
def indices [Platform] (datum : Datum) : Except Fault (List Index) := do
  let dimensions ← datum.wholes
  Shape.checkRanges dimensions
  pure (Shape.indicesBelow dimensions)

/-- A shape whose indices can be listed. -/
def listedShape [Platform] (datum : Datum) : Except Fault Shape := do
  let shape ← datum.shape
  Shape.checkRanges (shape.map Count.toWhole)
  pure shape

/-- A sequence of labels; the characters of a text are one label each.  What is new among them comes into
being below a site. -/
def labels (site : Site) (datum : Datum) : Except Fault (List Label) := do
  pure ((placedAll site 0 (← datum.sequence)).map Label.mk)

/-- The remaining rows of a matrix, all of which have to have the given length. -/
def rows (columns : Nat) : List Datum → Except Fault (List (List Datum))
  | [] => .ok []
  | row :: rest => do
      let items ← row.sequence
      if items.length = columns then return items :: (← rows columns rest)
      else .error .raggedRows

end Datum

namespace Tensor

/-- The tensor of a shape with the given elements in storage order. -/
def ofData (shape elements : Datum) : Except Fault (Tensor Datum) := do
  let shape ← shape.shape
  ofElems shape (← elements.sequence)

/-- The tensor of a shape whose elements are all the same.  There has to be memory for them. -/
def constantOfData [Platform] (shape value : Datum) : Except Fault (Tensor Datum) := do
  let shape ← shape.shape
  shape.checkStorage
  pure (constant shape value)

/-- The tensor with one axis that holds the members of a sequence. -/
def vectorOfData (values : Datum) : Except Fault (Tensor Datum) := do
  pure (vector (← values.sequence))

/-- The tensor with two axes whose rows are the members of a sequence. -/
def matrixOfData (given : Datum) : Except Fault (Tensor Datum) := do
  match ← given.sequence with
  | [] => matrix []
  | first :: rest =>
      let items ← first.sequence
      matrix (items :: (← Datum.rows items.length rest))

/-- The tensor of a new shape that reads its elements through an axis map.  The shape is read and checked
before the map is. -/
def reshapeOfData [Platform] {α : Type} (tensor : Tensor α) (shape axes : Datum) :
    Except Fault (Tensor α) := do
  let dimensions ← shape.wholes
  let _ ← Shape.ofWholes dimensions
  tensor.reshape dimensions (← axes.wholes)

/-- The tensor whose axes come from the listed ones. -/
def diagonalOfData [Platform] {α : Type} (tensor : Tensor α) (axes : Datum) (default : α) :
    Except Fault (Tensor α) := do
  tensor.diagonal (← axes.wholes) default

/-- The tensor whose elements have come into being below a site, unless they were there before. -/
def placed (site : Site) (tensor : Tensor Datum) : Tensor Datum :=
  ofList tensor.shape (Datum.placedAll site 0 tensor.toList) (by simp)

/-- Whether an axis map to a new shape leaves the tensor as it is. -/
def isKept {α : Type} (tensor : Tensor α) (shape axes : Datum) : Bool :=
  match shape.wholes, axes.wholes with
  | .ok dimensions, .ok numbers => tensor.isUnchanged dimensions numbers
  | _, _ => false

end Tensor

end TensorLogic
