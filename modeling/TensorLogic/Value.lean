/-
Module: TensorLogic.Value
Purpose: The values that a predicate is evaluated to: data, elements of an algebra, and lists and
  tensors of them.
Main exports: Value, Value.ofDatum, Value.ofTensor, Value.tensor?, Value.truth, Value.items?,
  Value.text, Value.sequence, Value.asTensor, Value.tensorFor, Value.placed, Value.isSame
-/
import TensorLogic.Algebra.Truth
import TensorLogic.Tensor.Text

namespace TensorLogic

/-!
A predicate handles elements of an algebra, lists and tensors of them, and plain data, all without
declared types.  A tensor among the values is given by its shape and its elements, since a type cannot
hold tensors of itself together with the proof about their number; `Value.ofTensor` and
`Value.tensor?` lead from one to the other.

Two values may be equal and yet not be the same object.  A value has the mark of its object, which stays
with it wherever it is passed on.  An element of an algebra has none, as elements are the same exactly when
they are equal.
-/

/-- A value over the elements `β` of an algebra. -/
inductive Value (β : Type) where
  | scalar (mark : Mark) (value : Scalar)
  | list (mark : Mark) (items : List (Value β))
  | tensor (mark : Mark) (shape : Shape) (elems : List (Value β))
  | elem (element : β)
deriving Inhabited

namespace Value

variable {β : Type}

mutual

/-- A datum as a value. -/
def ofDatum : Datum → Value β
  | .scalar mark value => .scalar mark value
  | .list mark items => .list mark (ofData items)

/-- Data as values. -/
def ofData : List Datum → List (Value β)
  | [] => []
  | datum :: data => ofDatum datum :: ofData data

end

/-- A truth value as a value. -/
abbrev bool (value : Bool) : Value β := .scalar none (.bool value)

/-- A new text. -/
abbrev str (text : String) : Value β := .scalar none (.str text)

/-- A new list. -/
abbrev ofList (items : List (Value β)) : Value β := .list none items

/-- A new tensor. -/
def ofTensor (tensor : Tensor (Value β)) : Value β := .tensor none tensor.shape tensor.toList

/-- The tensor that a value is, if it is one. -/
def tensor? : Value β → Option (Tensor (Value β))
  | tensor _ shape elems =>
      if counted : elems.length = shape.size then some (Tensor.ofList shape elems counted) else none
  | _ => none

/-- Scalars and lists count as true as data do; tensors and elements of an algebra are true. -/
def truth : Value β → Bool
  | scalar _ value => value.truth
  | list _ items => !items.isEmpty
  | tensor .. => true
  | elem _ => true

/-- The sequence that a value stands for: the members of a list, the characters of a text, or the
elements of a tensor in storage order. -/
def items? : Value β → Option (List (Value β))
  | scalar _ (.str text) => some ((Text.characters text).map str)
  | scalar .. => none
  | list _ items => some items
  | .tensor _ _ elems => some elems
  | elem _ => none

mutual

/-- How a value is written, given how the elements of the algebra are. -/
def text (element : β → String) : Value β → String
  | scalar _ value => value.text
  | list _ items => Text.bracketed (texts element items)
  | tensor _ shape _ => Tensor.describeShape shape
  | elem value => element value

/-- How values are written. -/
def texts (element : β → String) : List (Value β) → List String
  | [] => []
  | value :: values => text element value :: texts element values

end

/-- The members of a value that has to be a sequence. -/
def sequence (value : Value β) : Except Fault (List (Value β)) :=
  match value.items? with
  | some items => .ok items
  | none => .error .wrongType

/-- What a report calls the kind of a value. -/
def kind : Value β → String
  | scalar _ value => value.kind
  | list .. => listKind
  | tensor .. => "Tensor"
  | elem _ => "Lit"

/-- A value that has to be a tensor. -/
def asTensor (value : Value β) : Except Fault (Tensor (Value β)) :=
  match value.tensor? with
  | some found => .ok found
  | none => .error .wrongType

/-- A value that is asked for something which only tensors have. -/
def tensorFor (member : String) (value : Value β) : Except Fault (Tensor (Value β)) :=
  match value.tensor? with
  | some found => .ok found
  | none => .error (.missingMember value.kind member)

mutual

/-- The value as it is recognised once it has come into being at a site: each part of it without a mark
gets one, unless there is only one object for it anyway. -/
def placed (site : Site) : Value β → Value β
  | scalar none value => scalar (if value.isUnique then none else some site) value
  | list none items => list (some site) (placedAll site.parts 0 items)
  | tensor none shape elems => tensor (some site) shape (placedAll site.parts 0 elems)
  | other => other

/-- The parts of what has come into being at a site, counted from a number on. -/
def placedAll (site : Site) (number : Nat) : List (Value β) → List (Value β)
  | [] => []
  | value :: values => placed (number :: site) value :: placedAll site (number + 1) values

end

/-- Whether two values are one object.  Elements are when they are equal, and otherwise the marks decide. -/
def isSame [DecidableEq β] : Value β → Value β → Bool
  | elem left, elem right => left = right
  | scalar left first, scalar right second => left.same right || first.isShared second
  | list left _, list right _ => left.same right
  | tensor left _ _, tensor right _ _ => left.same right
  | _, _ => false

/-- The constants among the values are the two truth values. -/
def truthConstants : Constants (Value β) where
  bot := .bool false
  top := .bool true
  isBot := fun
    | .scalar none (.bool false) => true
    | _ => false
  isTop := fun
    | .scalar none (.bool true) => true
    | _ => false
  isBot_iff := fun element => by
    constructor
    · intro holds
      split at holds
      · rfl
      · simp at holds
    · rintro rfl
      rfl
  isTop_iff := fun element => by
    constructor
    · intro holds
      split at holds
      · rfl
      · simp at holds
    · rintro rfl
      rfl
  bot_ne_top := by simp

instance : TruthValued (Value β) where
  constants := truthConstants
  truth := truth
  truth_bot := rfl
  truth_top := rfl

/-- The constants of an algebra of elements, as values. -/
def elementConstants [DecidableEq β] (bot top : β) (distinct : bot ≠ top) : Constants (Value β) where
  bot := .elem bot
  top := .elem top
  isBot := fun
    | .elem element => element = bot
    | _ => false
  isTop := fun
    | .elem element => element = top
    | _ => false
  isBot_iff := fun element => by
    cases element <;> simp
  isTop_iff := fun element => by
    cases element <;> simp
  bot_ne_top := by simpa using distinct

end Value

end TensorLogic
