/-
Module: TensorLogic.Workspace.Item
Purpose: What a name in a workspace can stand for: a tensor, or a result of another kind.
Main exports: Handle, Item, Item.ofDatum, Item.ofShape, Item.text, Item.plainText, Item.placed,
  Item.isSame, Item.equal, Item.items?, Item.member, Item.replaceTensors
-/
import TensorLogic.Position
import TensorLogic.Shape

namespace TensorLogic

/-!
Most results are tensors, which have an identity and are therefore given by a handle.  Others are data,
sequences of results, and answers with named parts.  How an item is written, and whether two are equal,
depends on the tensors behind the handles, about which the functions below are told.

A handle is the identity of its tensor; all other items have a mark.
-/

/-- The identity of a tensor in a workspace. -/
abbrev Handle := Nat

/-- What a name can stand for.  The parts of a record have names, which are listed in the same order. -/
inductive Item where
  | tensor (handle : Handle)
  | scalar (mark : Mark) (value : Scalar)
  | list (mark : Mark) (items : List Item)
  | tuple (mark : Mark) (items : List Item)
  | record (mark : Mark) (names : List String) (parts : List Item)
deriving Repr, Inhabited

namespace Item

mutual

/-- A datum as an item. -/
def ofDatum : Datum → Item
  | .scalar mark value => .scalar mark value
  | .list mark items => .list mark (ofData items)

/-- Data as items. -/
def ofData : List Datum → List Item
  | [] => []
  | datum :: data => ofDatum datum :: ofData data

end

/-- Nothing. -/
abbrev nothing : Item := .scalar none .null

/-- A truth value. -/
abbrev bool (value : Bool) : Item := .scalar none (.bool value)

/-- A natural number. -/
abbrev nat (value : Nat) : Item := .scalar none (.int value)

/-- A text. -/
abbrev str (text : String) : Item := .scalar none (.str text)

/-- A new list. -/
abbrev ofList (items : List Item) : Item := .list none items

/-- A new tuple. -/
abbrev ofTuple (items : List Item) : Item := .tuple none items

/-- A new record. -/
abbrev ofRecord (names : List String) (parts : List Item) : Item := .record none names parts

/-- A count, as it is given. -/
def ofCount (count : Count) : Item := .scalar none (.ofWhole count.toWhole)

/-- A shape as a new tuple. -/
def ofShape (shape : Shape) : Item := ofTuple (shape.map ofCount)

/-- What a report calls the kind of an item. -/
def kind : Item → String
  | tensor _ => "Tensor"
  | scalar _ value => value.kind
  | list .. => listKind
  | tuple .. => "tuple"
  | record .. => "dict"

mutual

/-- How an item is written, given how tensors are described. -/
def text (describe : Handle → String) : Item → String
  | tensor handle => describe handle
  | scalar _ value => value.text
  | list _ items => Text.bracketed (texts describe items)
  | tuple _ items => Text.tupled (texts describe items)
  | record _ names parts =>
      "\x7b" ++ ", ".intercalate (List.zipWith (fun name part => Text.quoted name ++ ": " ++ part)
        names (texts describe parts)) ++ "\x7d"

/-- How items are written. -/
def texts (describe : Handle → String) : List Item → List String
  | [] => []
  | item :: items => text describe item :: texts describe items

end

/-- How an item is written on its own: a text stands without quotes. -/
def plainText (describe : Handle → String) : Item → String
  | scalar _ (.str content) => content
  | item => item.text describe

mutual

/-- The item as it is recognised once it has come into being at a site: each part of it without a mark gets
one, unless there is only one object for it anyway.  There is one empty tuple. -/
def placed (site : Site) : Item → Item
  | scalar none value => scalar (if value.isUnique then none else some site) value
  | list none items => list (some site) (placedAll site 0 items)
  | tuple none items => tuple (some (if items.isEmpty then [] else site)) (placedAll site 0 items)
  | record none names parts => record (some site) names (placedAll site 0 parts)
  | other => other

/-- The parts of what has come into being at a site, counted from a number on. -/
def placedAll (site : Site) (number : Nat) : List Item → List Item
  | [] => []
  | item :: items => placed (number :: site) item :: placedAll site (number + 1) items

end

/-- Whether two items are one object. -/
def isSame : Item → Item → Bool
  | tensor left, tensor right => left == right
  | scalar left first, scalar right second => left.same right || first.isShared second
  | list left _, list right _ | tuple left _, tuple right _ | record left _ _, record right _ _ =>
      left.same right
  | _, _ => false

mutual

/-- Equality of items, given that of tensors.  Items of different kinds are not equal, except for numbers
and truth values. -/
def equal (tensors : Handle → Handle → Bool) : Item → Item → Bool
  | tensor left, tensor right => tensors left right
  | scalar _ left, scalar _ right => left.equal right
  | list _ lefts, list _ rights => equalAll tensors lefts rights
  | tuple _ lefts, tuple _ rights => equalAll tensors lefts rights
  | record _ names parts, record _ others values =>
      names == others && equalAll tensors parts values
  | _, _ => false

/-- Equality of two lists of items.  What is the same is not compared. -/
def equalAll (tensors : Handle → Handle → Bool) : List Item → List Item → Bool
  | [], [] => true
  | left :: lefts, right :: rights =>
      (isSame left right || equal tensors left right) && equalAll tensors lefts rights
  | _, _ => false

end

/-- The members of an item that is a sequence and no tensor. -/
def items? : Item → Option (List Item)
  | list _ items | tuple _ items => some items
  | record _ names _ => some (names.map str)
  | scalar _ (.str content) => some ((Text.characters content).map str)
  | _ => none

/-- The part of a record with a name.  What is no name names no part, and a list is not even looked for. -/
def part (names : List String) (parts : List Item) (name : Datum) : Except Fault Item :=
  match name with
  | .scalar _ (.str text) =>
      match (names.zip parts).lookup text with
      | some found => .ok found
      | none => .error (.missingKey name)
  | .scalar .. => .error (.missingKey name)
  | .list .. => .error .wrongType

/-- The member of a list, a tuple or a text at a position, or the part of a record with a name. -/
def member (item : Item) (position : Datum) : Except Fault Item :=
  match position.integer?, item with
  | _, record _ names parts => part names parts position
  | some place, list _ items => Position.member items place .listRange
  | some place, tuple _ items => Position.member items place .axisRange
  | some place, scalar _ (.str content) => do
      pure (str (← Position.member (Text.characters content) place .textRange))
  | _, _ => .error .wrongType

/-- The tuple without its first members.  Without none of them it is the tuple itself. -/
def dropMembers (count : Nat) : Item → Item
  | tuple mark items => if count = 0 then tuple mark items else ofTuple (items.drop count)
  | other => other

/-- The tuple without its last member. -/
def dropLastMember : Item → Item
  | tuple _ items => ofTuple items.dropLast
  | other => other

mutual

/-- The item with every tensor in it replaced by another item. -/
def replaceTensors (replacement : Handle → Item) : Item → Item
  | tensor handle => replacement handle
  | scalar mark value => scalar mark value
  | list mark items => list mark (replaceAll replacement items)
  | tuple mark items => tuple mark (replaceAll replacement items)
  | record mark names parts => record mark names (replaceAll replacement parts)

/-- The items with every tensor in them replaced. -/
def replaceAll (replacement : Handle → Item) : List Item → List Item
  | [] => []
  | item :: items => replaceTensors replacement item :: replaceAll replacement items

end

/-- A tuple of one item is written with a comma, and a text inside is quoted. -/
example :
    text (fun _ => "") (ofList [ofTuple [nat 1], str "a", nothing]) = "[(1,), 'a', None]" := by
  decide +kernel

end Item

end TensorLogic
