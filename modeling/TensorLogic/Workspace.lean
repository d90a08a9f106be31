/-
Module: TensorLogic.Workspace
Purpose: Tensors that can be edited in place, their identity and their remembered hashes, and named
  results of all kinds.
Main exports: Workspace, Workspace.Slot, Workspace.site, Workspace.given, Workspace.add,
  Workspace.addMapped, Workspace.addFolded, Workspace.addUnstacked, Workspace.editing,
  Workspace.setElem, Workspace.hash, Workspace.equal, Workspace.distinct, Workspace.isSame,
  Workspace.members, Workspace.element, Workspace.describe, Workspace.write
-/
import TensorLogic.Argument
import TensorLogic.Effect
import TensorLogic.Tensor.Hash
import TensorLogic.Tensor.Text
import TensorLogic.Workspace.Item

namespace TensorLogic

/-!
Tensors do not change, with one exception: inside an editing block of a tensor its elements can be
replaced.  So editing needs an identity that outlives a change.  In a workspace each tensor has a
handle, and names stand for handles; two names may stand for one tensor, and then an edit under one
name is seen under the other.  A name can also stand for a result that is no tensor.

A hash is remembered once it is computed, except while the tensor is being edited, and forgotten when
an editing block ends, in whichever way it ends.  A hash that was remembered before the block is still
given inside it.  Outside editing blocks the remembered hash is therefore that of the elements.

The elements of tensors, their shapes and the results under names are objects, too, and stay the same
objects wherever they are handed on.  Whatever enters the workspace gets its mark then; each entrance is an
occasion of its own.
-/

/-- A tensor in a workspace, its shape as an object, whether it is being edited, and its hash if that is
remembered. -/
structure Workspace.Slot where
  tensor : Tensor Datum
  dimensions : Item
  isEdited : Bool := false
  hash? : Option UInt64 := none

/-- Tensors by their handles, results by names, the latest binding of a name first, and the number of
occasions so far. -/
structure Workspace where
  slots : Array Workspace.Slot := #[]
  names : List (String × Item) := []
  occasions : Nat := 0

namespace Workspace

/-- The site of a new occasion. -/
def site : Act Workspace Site := do
  let workspace ← get
  set { workspace with occasions := workspace.occasions + 1 }
  pure [workspace.occasions]

/-- Data that are given from outside, as objects of the workspace. -/
def given (data : List Datum) : Act Workspace (List Datum) := do
  pure (Datum.placedAll (← site) 0 data)

/-- Put a tensor into the workspace, under a new handle, with a given object as its shape. -/
def addWith (dimensions : Item) (tensor : Tensor Datum) : Act Workspace Handle := do
  let place ← site
  modifyGet fun workspace =>
    let handle := workspace.slots.size
    (handle, { workspace with
      slots := workspace.slots.push {
        tensor := tensor.placed (1 :: place)
        dimensions := dimensions.placed (0 :: place) } })

/-- Put a tensor with a new shape into the workspace. -/
def add (tensor : Tensor Datum) : Act Workspace Handle :=
  addWith (.ofShape tensor.shape) tensor

/-- Let a name stand for an item. -/
def bind (name : String) (item : Item) : Act Workspace Unit := do
  let result := item.placed (← site)
  modify fun workspace => { workspace with names := (name, result) :: workspace.names }

/-- What a name stands for. -/
def resolve (name : String) : Act Workspace Item := do
  match (← get).names.lookup name with
  | some item => pure item
  | none => throw (.unbound name)

/-- The handle of an item that is asked for something which only tensors have. -/
def handleFor (member : String) : Item → Except Fault Handle
  | .tensor handle => .ok handle
  | other => .error (.missingMember other.kind member)

/-- What is stored under a handle. -/
def slot (handle : Handle) : Act Workspace Slot := do
  match (← get).slots[handle]? with
  | some slot => pure slot
  | none => throw (.unbound "")

/-- The shape of the tensor under a handle, as an object. -/
def dimensions (handle : Handle) : Act Workspace Item := do
  pure (← slot handle).dimensions

/-- The tensor under a handle. -/
def read (handle : Handle) : Act Workspace (Tensor Datum) := do
  pure (← slot handle).tensor

/-- The dimension of an axis of the tensor under a handle.  A negative number counts the axes from the last
one. -/
def dim (handle : Handle) (axis : Datum) : Act Workspace Item := do
  (← dimensions handle).member axis

/-- The shape of the tensor under a handle, its order and its size. -/
def info (handle : Handle) : Act Workspace Item := do
  let tensor ← read handle
  pure (.ofList [← dimensions handle, .nat tensor.order, .nat tensor.size])

/-- Put a tensor into the workspace that has the shape of the one under a handle. -/
def addMapped (source : Handle) (tensor : Tensor Datum) : Act Workspace Handle := do
  addWith (← dimensions source) tensor

/-- Put a tensor into the workspace that has the axes of the one under a handle from a number on. -/
def addFolded (source : Handle) (count : Nat) (tensor : Tensor Datum) : Act Workspace Handle := do
  addWith ((← dimensions source).dropMembers count) tensor

/-- Put the tensors into the workspace that the one under a handle is stacked from.  They share one
shape. -/
def addUnstacked (source : Handle) (tensors : List (Tensor Datum)) :
    Act Workspace (List Handle) := do
  let shared := (← dimensions source).dropLastMember.placed (← site)
  tensors.mapM (addWith shared)

/-- Store something else under a handle. -/
def store (handle : Handle) (slot : Slot) : Act Workspace Unit :=
  modify fun workspace => { workspace with slots := workspace.slots.setIfInBounds handle slot }

/-- The tensor that an item is, which is asked for something that only tensors have. -/
def tensorOf (workspace : Workspace) (member : String) (item : Item) :
    Except Fault (Tensor Datum) := do
  match workspace.slots[← handleFor member item]? with
  | some slot => pure slot.tensor
  | none => throw (.unbound "")

/-- Replace the element that an index names.  The tensor has to be in an editing block. -/
def setElem (handle : Handle) (value : Datum) (index : List Datum) : Act Workspace Unit := do
  let current ← slot handle
  if current.isEdited then
    let changed ← current.tensor.update value index
    store handle { current with tensor := changed }
  else throw .notEditing

/-- Open an editing block of a tensor.  A tensor has one at a time. -/
def acquire (handle : Handle) : Act Workspace Unit := do
  let current ← slot handle
  if current.isEdited then throw .alreadyEditing
  else store handle { current with isEdited := true }

/-- Close the editing block of a tensor and forget its hash. -/
def release (handle : Handle) : Act Workspace Unit := do
  let current ← slot handle
  store handle { current with isEdited := false, hash? := none }

/-- Run a computation inside an editing block, which is closed also when the computation fails. -/
def editing {α : Type} (handle : Handle) (block : Act Workspace α) : Act Workspace α := do
  acquire handle
  let outcome ← attempt block
  release handle
  liftExcept outcome
where
  /-- Fail with the fault of an outcome, or return its value. -/
  liftExcept (outcome : Except Fault α) : Act Workspace α :=
    ExceptT.mk (pure outcome)

/-- The hash of a tensor: the remembered one, if there is one. -/
def hash (handle : Handle) : Act Workspace UInt64 := do
  let current ← slot handle
  match current.hash? with
  | some remembered => pure remembered
  | none =>
      let computed ← current.tensor.hash
      if !current.isEdited then store handle { current with hash? := some computed }
      pure computed

mutual

/-- The hash of an item as a number.  Lists and records have none. -/
def code : Item → Act Workspace Int
  | .tensor handle => do pure (Tensor.reducedHash (← hash handle))
  | .scalar mark value => do pure (← Hash.ofDatum (.scalar mark value))
  | .tuple _ items => do pure (Hash.ofTuple (← codes items))
  | .list .. | .record .. => throw .wrongType

/-- The hashes of items as numbers. -/
def codes : List Item → Act Workspace (List Int)
  | [] => pure []
  | item :: items => do
      let number ← code item
      pure (number :: (← codes items))

end

/-- The hash of an item as a word. -/
def digest : Item → Act Workspace UInt64
  | .tensor handle => hash handle
  | item => do pure (Hash.word (← code item))

/-- Whether two handles stand for equal tensors.  A tensor equals itself without a look at its
elements. -/
def equalTensors (workspace : Workspace) (left right : Handle) : Bool :=
  left == right ||
    match workspace.slots[left]?, workspace.slots[right]? with
    | some first, some second => first.tensor.equal second.tensor
    | _, _ => false

/-- Whether two items are equal. -/
def equal (left right : Item) : Act Workspace Bool := do
  pure (left.equal (← get).equalTensors right)

/-- Whether an item equals one of those already seen, of which the hashes are known.  Only items with the
same hash are compared. -/
def isSeen (number : Int) (item : Item) : List (Int × Item) → Act Workspace Bool
  | [] => pure false
  | (other, seen) :: rest => do
      if other = number then
        if ← equal seen item then pure true else isSeen number item rest
      else isSeen number item rest

/-- The number of different items among the given ones, added to the number of those seen. -/
def countDistinct (seen : List (Int × Item)) : List Item → Act Workspace Nat
  | [] => pure seen.length
  | item :: items => do
      let number ← code item
      if ← isSeen number item seen then countDistinct seen items
      else countDistinct ((number, item) :: seen) items

/-- The number of different items among the given ones. -/
def distinct (items : List Item) : Act Workspace Nat := countDistinct [] items

/-- Whether two names stand for the same object. -/
def isSame (left right : String) : Act Workspace Bool := do
  pure ((← resolve left).isSame (← resolve right))

/-- The members of an item: the elements of a tensor in storage order, or those of another sequence. -/
def members (item : Item) : Act Workspace (List Item) := do
  match item with
  | .tensor handle => pure (Item.ofData (← read handle).toList)
  | other =>
      match other.items? with
      | some items => pure items
      | none => throw .wrongType

/-- The element of a tensor, or the member of another sequence, that an index names. -/
def element (item : Item) (index : Datum) : Act Workspace Item := do
  match item with
  | .tensor handle => do
      let tensor ← read handle
      pure (.ofDatum (← tensor.lookup (← index.coordinates)))
  | other => other.member index

/-- Reshape a tensor.  A map that changes nothing keeps the tensor itself, every other one makes a new
tensor. -/
def reshape [Platform] (handle : Handle) (shape axes : Datum) : Act Workspace Handle := do
  let tensor ← read handle
  let result ← tensor.reshapeOfData shape axes
  if tensor.isKept shape axes then pure handle else add result

/-- The name of a tensor without its elements. -/
def describeTensor (workspace : Workspace) (handle : Handle) : String :=
  match workspace.slots[handle]? with
  | some slot => slot.tensor.describe
  | none => ""

/-- How an item is described. -/
def describe (item : Item) : Act Workspace String := do
  pure (item.text (← get).describeTensor)

/-- How an item is written on its own: a tensor with its elements, a text without quotes. -/
def plainText : Item → Act Workspace String
  | .tensor handle => do pure (← read handle).text
  | item => do pure (item.plainText (← get).describeTensor)

/-- A tensor as a record of its shape and its elements. -/
def tensorRecord (workspace : Workspace) (handle : Handle) : Item :=
  match workspace.slots[handle]? with
  | some slot =>
      .ofRecord ["shape", "elems"] [slot.dimensions, .ofList (Item.ofData slot.tensor.toList)]
  | none => .nothing

/-- An item as it is at present, with its tensors written out. -/
def write (item : Item) : Act Workspace Item := do
  pure (item.replaceTensors (← get).tensorRecord)

end Workspace

end TensorLogic
