/-
Module: TensorLogic.Contraction.Basic
Purpose: The collection of labelled tensors that are to be contracted.
Main exports: AxisLabel, Contraction, Contraction.Entry, Contraction.add, Contraction.addGiven,
  Contraction.consume
-/
import TensorLogic.Effect
import TensorLogic.Tensor.Reshape

namespace TensorLogic

/-!
A contraction multiplies labelled tensors, broadcast over all of their labels, and sums over every
label that is not asked for.  Tensors are added one at a time with a label for each of their axes; the
result can be taken once.

The labels are kept in the order in which they were last mentioned, the latest ones last.  All
intermediate tensors have their axes in this order.
-/

/-- What may label an axis: labels are found again by `==`, and reports write them. -/
class AxisLabel (L : Type) extends BEq L where
  text : L → String

instance : AxisLabel Label := ⟨Label.text⟩

/-- A sequence of labels, as reports write it. -/
def AxisLabel.tupleText {L : Type} [AxisLabel L] (labels : List L) : String :=
  Text.tupled (labels.map AxisLabel.text)

/-- A tensor and the labels of its axes. -/
structure Contraction.Entry (V L : Type) where
  tensor : Tensor V
  labels : List L

/-- The tensors that were added, in order, the operations they are to be contracted with, the labels in
order of their last mention, and whether the result was taken. -/
structure Contraction (σ V L : Type) where
  /-- The reduction over a label that is eliminated. -/
  sum : List V → Act σ V
  /-- The product of two elements. -/
  product : V → V → Act σ V
  order : List L := []
  entries : List (Contraction.Entry V L) := []
  consumed : Bool := false

namespace Contraction

variable {σ V L : Type}

/-- The number of tensors that were added and not yet contracted. -/
def pending (contraction : Contraction σ V L) : Nat := contraction.entries.length

/-- How a contraction is described.  The address of an object is left open. -/
def describe (contraction : Contraction σ V L) : String :=
  "<Contract 0x: " ++ toString contraction.pending ++ " tensors>"

/-- The contraction after its result was taken. -/
def consume (contraction : Contraction σ V L) : Contraction σ V L :=
  { contraction with order := [], entries := [], consumed := true }

/-- A contraction whose result was taken takes part in nothing any more. -/
def checkUsable (contraction : Contraction σ V L) : Except Fault Unit :=
  if contraction.consumed then .error .contractionConsumed else .ok ()

variable [AxisLabel L]

/-- Mention a label: it moves to the end of the order. -/
def mention (order : List L) (label : L) : List L :=
  order.filter (fun other => !(other == label)) ++ [label]

/-- Mention labels one after the other. -/
def touch (order labels : List L) : List L := labels.foldl mention order

/-- What is no number at all is found again as the object that it is, and moves to the end. -/
example :
    let undefined : Label := ⟨.scalar (some [0]) (.fraction .undefined)⟩
    touch [undefined, .int 1] [undefined, .int 2] = [.int 1, undefined, .int 2] := rfl

/-- Whether no label occurs twice. -/
def allDifferent : List L → Bool
  | [] => true
  | label :: labels => !labels.elem label && allDifferent labels

/-- Add a tensor with a label for each of its axes.  No label may occur twice. -/
def add (contraction : Contraction σ V L) (tensor : Tensor V) (labels : List L) :
    Except Fault (Contraction σ V L) := do
  checkUsable contraction
  if labels.length ≠ tensor.order then .error (.labelCount tensor.order labels.length)
  else if !allDifferent labels then .error (.labelsRepeated (AxisLabel.tupleText labels))
  else .ok {
    contraction with
    order := touch contraction.order labels
    entries := contraction.entries ++ [⟨tensor, labels⟩] }

/-- Add a tensor whose labels, or the tensor itself, may turn out to be something else.  Whether the
contraction can be used at all is looked at first, then the tensor, then the labels. -/
def addGiven (contraction : Contraction σ V L) (tensor : Except Fault (Tensor V))
    (labels : Except Fault (List L)) : Except Fault (Contraction σ V L) := do
  checkUsable contraction
  contraction.add (← tensor) (← labels)

end Contraction

end TensorLogic
