/-
Module: TensorLogic.Contraction.Result
Purpose: How labelled tensors are contracted.
Main exports: Contraction.contract, Contraction.take, Contraction.arrange, Contraction.join,
  Contraction.eliminate, Contraction.combine
-/
import TensorLogic.Contraction.Basic
import TensorLogic.Tensor.Pointwise

namespace TensorLogic.Contraction

/-!
The tensors are multiplied from the first to the last into one accumulated tensor.  After each step
the labels that neither a tensor still to come nor the output mentions are summed over at once, so that
the accumulated tensor never carries more labels than it has to.
-/

variable {σ V L : Type} [AxisLabel L]

/-- The dimensions that labels are used with. -/
abbrev Dimensions (L : Type) := List (L × Count)

/-- Use a label with a dimension.  A label has one dimension, which is kept as it was given first. -/
def useLabel (dimensions : Dimensions L) (label : L) (dimension : Count) :
    Except Fault (Dimensions L) :=
  match dimensions.lookup label with
  | none => .ok (dimensions ++ [(label, dimension)])
  | some first =>
      if first.value = dimension.value then .ok dimensions
      else .error (.labelDimensions (AxisLabel.text label) first dimension)

/-- The dimensions of the labels of some entries, looked at in order. -/
def dimensionsOf (entries : List (Entry V L)) : Except Fault (Dimensions L) :=
  (entries.flatMap fun entry => entry.labels.zip entry.tensor.shape).foldlM
    (fun dimensions (label, dimension) => useLabel dimensions label dimension) []

/-- The dimension of a label. -/
def dimensionOf (dimensions : Dimensions L) (label : L) : Count :=
  (dimensions.lookup label).getD 0

/-- The tensor of an entry, spread over the given labels. -/
def spread [Platform] (entry : Entry V L) (labels : List L) (dimensions : Dimensions L) :
    Except Fault (Tensor V) :=
  entry.tensor.reshape
    (labels.map fun label => (dimensionOf dimensions label).toWhole)
    (entry.labels.map fun label => .number (labels.idxOf label))

/-- The labels of the order that occur among the given ones. -/
def ordered (order labels : List L) : List L := order.filter labels.elem

/-- Bring the axes of an entry into the order of the labels. -/
def arrange [Platform] (order : List L) (entry : Entry V L) : Except Fault (Entry V L) :=
  let labels := ordered order entry.labels
  if labels == entry.labels then .ok entry
  else do pure ⟨← spread entry labels (← dimensionsOf [entry]), labels⟩

/-- Multiply two entries, each broadcast over the labels of both. -/
def join [Platform] (order : List L) (product : V → V → Act σ V) (left right : Entry V L) :
    Act σ (Entry V L) := do
  let labels := ordered order (left.labels ++ right.labels)
  let dimensions ← dimensionsOf [left, right]
  let leftTensor ← spread left labels dimensions
  let rightTensor ← spread right labels dimensions
  pure ⟨← leftTensor.map2 product rightTensor, labels⟩

/-- Sum over the labels of an entry that are not needed any more. -/
def eliminate [Platform] (sum : List V → Act σ V) (needed : List L) (entry : Entry V L) :
    Act σ (Entry V L) := do
  let (kept, eliminated) := entry.labels.partition needed.elem
  if eliminated.isEmpty then pure entry
  else
    let tensor ← spread entry (eliminated ++ kept) (← dimensionsOf [entry])
    pure ⟨← tensor.fold sum (.number eliminated.length), kept⟩

/-- The labels that are needed once the given entries are still to come. -/
def neededBy (entries : List (Entry V L)) (output : List L) : List L :=
  entries.flatMap Entry.labels ++ output

/-- Multiply the accumulated entry with all entries still to come, eliminating labels after each. -/
def combine [Platform] (sum : List V → Act σ V) (product : V → V → Act σ V) (order output : List L)
    (accumulated : Entry V L) : List (Entry V L) → Act σ (Entry V L)
  | [] => pure accumulated
  | entry :: entries => do
      let joined ← join order product accumulated (← arrange order entry)
      let reduced ← eliminate sum (neededBy entries output) joined
      combine sum product order output reduced entries

/-- The output labels have to be different from one another, and each has to be mentioned by a tensor;
and there has to be a tensor. -/
def checkOutput (contraction : Contraction σ V L) (output : List L) : Except Fault Unit :=
  if contraction.entries.isEmpty then .error .contractionEmpty
  else if !allDifferent output then .error (.outputRepeated (AxisLabel.tupleText output))
  else
    match output.find? (fun label => !contraction.order.elem label) with
    | some label => .error (.outputUnknown (AxisLabel.text label))
    | none => .ok ()

/-- Contract all tensors onto the output labels: the axes of the result are the output labels, in the
order in which they are given. -/
def contract [Platform] [HasJournal σ] (contraction : Contraction σ V L) (output : List L) :
    Act σ (Tensor V) := do
  checkOutput contraction output
  let order := touch contraction.order output
  announce (.contracting contraction.pending order.length (AxisLabel.tupleText output))
  match contraction.entries with
  | [] => throw .contractionEmpty
  | first :: entries =>
      let start ← eliminate contraction.sum (neededBy entries output) (← arrange order first)
      let result ← combine contraction.sum contraction.product order output start entries
      pure result.tensor

/-- Take the result of a contraction: the computation of it, and the contraction as it is afterwards,
whether the computation succeeds or fails.  The two stand side by side, so that it can be read off the type
that the outcome of the computation has no say in what becomes of the contraction.  Only a contraction whose
result was not taken yet, and that is asked for a sequence of labels at all, changes. -/
def take [Platform] [HasJournal σ] (contraction : Contraction σ V L) (output : Except Fault (List L)) :
    Act σ (Tensor V) × Contraction σ V L :=
  if contraction.consumed then (throw .contractionConsumed, contraction)
  else
    match output with
    | .error fault => (throw fault, contraction)
    | .ok output => (contraction.contract output, contraction.consume)

end TensorLogic.Contraction
