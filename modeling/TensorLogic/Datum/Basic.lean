/-
Module: TensorLogic.Datum.Basic
Purpose: Plain data: the elements of tensors, the labels of axes and the arguments of operations.
Main exports: Scalar, Datum, Datum.truth, Datum.equal, Datum.isSame, Datum.placed, Datum.text,
  Datum.items?, Datum.whole?, Datum.integer?, Datum.number?, Label
-/
import TensorLogic.Identity
import TensorLogic.Number.Shortest
import TensorLogic.Number.Whole
import TensorLogic.Text.Brackets
import TensorLogic.Text.Quoted

namespace TensorLogic

/-!
Data are read without a declared type: a tensor may hold anything, and an operation that asks for
numbers has to be prepared for a text.  This module says what a datum counts as: which truth value,
which number, which sequence, and which text; and when two data are equal, or even the same object.
-/

/-- A datum without parts.  A `fraction` is a number in binary floating point; such numbers are compared
and written, but no operation computes with one. -/
inductive Scalar where
  | null
  | bool (value : Bool)
  | int (value : Int)
  | fraction (value : Floating)
  | str (text : String)
deriving Repr, Inhabited

/-- A scalar, or a list of data.  The mark tells an object from others that are equal to it; nothing but
`Datum.isSame` asks for it. -/
inductive Datum where
  | scalar (mark : Mark) (value : Scalar)
  | list (mark : Mark) (items : List Datum)
deriving Repr, Inhabited

namespace Scalar

/-- Nothing, zero and the empty text are false, all other scalars are true. -/
def truth : Scalar → Bool
  | null => false
  | bool value => value
  | int value => value != 0
  | fraction value => !value.isZero
  | str text => !text.isEmpty

/-- The number that a scalar stands for.  The truth values count as zero and one. -/
def number? : Scalar → Option Quantity
  | bool value => some (.ofInt value.toInt)
  | int value => some (.ofInt value)
  | fraction value => value.quantity?
  | _ => none

/-- Numbers are equal when their values are, texts when they consist of the same characters, and
nothing equals only nothing. -/
def equal (left right : Scalar) : Bool :=
  match left.number?, right.number? with
  | some first, some second => first.equal second
  | none, none =>
      match left, right with
      | str s, str t => s == t
      | null, null => true
      | _, _ => false
  | _, _ => false

/-- The whole number that a scalar stands for, where it is given as one. -/
def whole? : Scalar → Option Whole
  | bool value => some (.truth value)
  | int value => some (.number value)
  | _ => none

/-- A whole number as a scalar, given in the same way. -/
def ofWhole : Whole → Scalar
  | .truth value => bool value
  | .number value => int value

/-- A whole number can be read back from the scalar that it is given as. -/
theorem whole?_ofWhole (whole : Whole) : (ofWhole whole).whole? = some whole := by
  cases whole <;> rfl

/-- How a scalar is written inside a list or in a message. -/
def text : Scalar → String
  | null => "None"
  | bool true => "True"
  | bool false => "False"
  | int value => Text.writeNumeral value
  | fraction value => value.text
  | str content => Text.quoted content

/-- What a report calls the kind of a scalar. -/
def kind : Scalar → String
  | null => "NoneType"
  | bool _ => "bool"
  | int _ => "int"
  | fraction _ => "float"
  | str _ => "str"

/-- Whether there is only one object for a scalar, however often it is made.  That holds for nothing, for the
truth values, for the numbers from -5 to 256, and for texts of at most one character below code point 256. -/
def isUnique : Scalar → Bool
  | null | bool _ => true
  | int value => -5 ≤ value && value ≤ 256
  | fraction _ => false
  | str text => text.length ≤ 1 && text.toList.all fun character => character.toNat < 256

/-- Whether two scalars that were made separately are one object all the same. -/
def isShared : Scalar → Scalar → Bool
  | null, null => true
  | bool left, bool right => left == right
  | int left, int right => left == right && (int left).isUnique
  | str left, str right => left == right && (str left).isUnique
  | _, _ => false

end Scalar

/-- What a report calls a list. -/
def listKind : String := "list"

namespace Datum

/-- The datum that stands for nothing. -/
abbrev null : Datum := .scalar none .null

/-- A truth value as a datum. -/
abbrev bool (value : Bool) : Datum := .scalar none (.bool value)

/-- A whole number as a datum. -/
abbrev int (value : Int) : Datum := .scalar none (.int value)

/-- A text as a datum. -/
abbrev str (text : String) : Datum := .scalar none (.str text)

/-- A new list. -/
abbrev ofList (items : List Datum) : Datum := .list none items

/-- A list is true unless it is empty. -/
def truth : Datum → Bool
  | scalar _ value => value.truth
  | list _ items => !items.isEmpty

/-- Whether two data are one object. -/
def isSame : Datum → Datum → Bool
  | scalar left first, scalar right second => left.same right || first.isShared second
  | list left _, list right _ => left.same right
  | _, _ => false

mutual

/-- The datum as it is recognised once it has come into being at a site: each part of it without a mark
gets one, unless there is only one object for it anyway. -/
def placed (site : Site) : Datum → Datum
  | scalar none value => scalar (if value.isUnique then none else some site) value
  | list none items => list (some site) (placedAll site 0 items)
  | marked => marked

/-- The members of a list that has come into being at a site, counted from a number on. -/
def placedAll (site : Site) (number : Nat) : List Datum → List Datum
  | [] => []
  | item :: items => placed (number :: site) item :: placedAll site (number + 1) items

end

/-- A list has the same length at every site. -/
@[simp]
theorem length_placedAll (site : Site) (number : Nat) (items : List Datum) :
    (placedAll site number items).length = items.length := by
  induction items generalizing number with
  | nil => simp [placedAll]
  | cons item items hypothesis => simp [placedAll, hypothesis]

mutual

/-- Lists are equal when they have the same length and equal members. -/
def equal : Datum → Datum → Bool
  | scalar _ left, scalar _ right => left.equal right
  | list _ lefts, list _ rights => equalAll lefts rights
  | _, _ => false

/-- Equality of two lists of data.  What is the same is not compared, so that even what does not equal
itself has its place in a list that does. -/
def equalAll : List Datum → List Datum → Bool
  | [], [] => true
  | left :: lefts, right :: rights =>
      (isSame left right || equal left right) && equalAll lefts rights
  | _, _ => false

end

instance : BEq Datum := ⟨equal⟩

/-- What a report calls the kind of a datum. -/
def kind : Datum → String
  | scalar _ value => value.kind
  | list .. => listKind

/-- The whole number that a datum stands for, where it is given as one. -/
def whole? : Datum → Option Whole
  | scalar _ value => value.whole?
  | list .. => none

/-- A whole number as a datum, given in the same way. -/
def ofWhole (whole : Whole) : Datum := .scalar none (.ofWhole whole)

/-- A count as a datum, given in the same way. -/
def ofCount (count : Count) : Datum := ofWhole count.toWhole

/-- The value of the whole number that a datum stands for, where it is given as one. -/
def integer? (datum : Datum) : Option Int := datum.whole?.map Whole.value

/-- The number that a datum stands for, where it is one. -/
def number? : Datum → Option Quantity
  | scalar _ value => value.number?
  | list .. => none

/-- The sequence that a datum stands for: the members of a list or the characters of a text.
Nothing else is a sequence. -/
def items? : Datum → Option (List Datum)
  | scalar _ (.str text) => some ((Text.characters text).map str)
  | list _ items => some items
  | _ => none

mutual

/-- How a datum is written, given how a sequence of written members is put together. -/
def textWith (sequence : List String → String) : Datum → String
  | scalar _ value => value.text
  | list _ items => sequence (textsWith sequence items)

/-- The written members of a list. -/
def textsWith (sequence : List String → String) : List Datum → List String
  | [] => []
  | item :: items => textWith sequence item :: textsWith sequence items

end

/-- How a datum is written inside a list or in a message. -/
def text (datum : Datum) : String := datum.textWith Text.bracketed

/-- How a datum is written on its own: a text stands without quotes. -/
def plainText : Datum → String
  | scalar _ (.str text) => text
  | datum => datum.text

/-- A list of data, written between square brackets. -/
def listText (items : List Datum) : String := Text.bracketed (items.map text)

/-- A sequence of data, written between round brackets. -/
def tupleText (items : List Datum) : String := Text.tupled (items.map text)

end Datum

/-- An axis label is a datum whose lists are written between round brackets. -/
structure Label where
  datum : Datum
deriving Repr, Inhabited

namespace Label

/-- A whole number as a label. -/
abbrev int (value : Int) : Label := ⟨.int value⟩

/-- A text as a label. -/
abbrev str (text : String) : Label := ⟨.str text⟩

/-- A label is found again as an equal one, so that the number one and the truth value are one label, or as
the same object, which need not equal itself. -/
instance : BEq Label :=
  ⟨fun left right => left.datum.isSame right.datum || left.datum.equal right.datum⟩

/-- How a label is written. -/
def text (label : Label) : String := label.datum.textWith Text.tupled

end Label

/-- Whole numbers in round brackets, as axis maps are written. -/
def wholesText (values : List Whole) : String := Text.tupled (values.map Whole.text)

/-- Counts in round brackets, as shapes are written. -/
def countsText (values : List Count) : String := Text.tupled (values.map Count.text)

end TensorLogic
