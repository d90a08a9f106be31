/-
Module: TensorLogic.Expr.Eval
Purpose: The value of an expression in an algebra.
Main exports: Environment, Interpretation, Expr.eval, Expr.evalAll
-/
import TensorLogic.Algebra.Pointwise
import TensorLogic.Argument
import TensorLogic.Contraction.Result
import TensorLogic.Expr.Basic
import TensorLogic.Position
import TensorLogic.Tensor.Stack
import TensorLogic.Value

namespace TensorLogic

/-- The values that names stand for, the latest binding of a name first. -/
abbrev Environment (β : Type) := List (String × Value β)

/-- What an expression is evaluated in: an algebra over the values, and what the inputs of a circuit
are, where there are any. -/
structure Interpretation (σ β : Type) where
  algebra : BoolAlgebra σ (Value β)
  leaf : String → Except Fault (Value β) := fun _ => .error .wrongType

namespace Value

variable {σ β : Type}

/-- The element of a tensor, or the member of a list or character of a text, that an index names. -/
def cell (value : Value β) (index : Datum) : Except Fault (Value β) :=
  match value with
  | .tensor .. => do (← value.asTensor).lookup (← index.coordinates)
  | .list _ items =>
      match index.integer? with
      | some position => Position.member items position .listRange
      | none => .error .wrongType
  | .scalar _ (.str _) =>
      match index.integer?, value.items? with
      | some position, some items => Position.member items position .textRange
      | _, _ => .error .wrongType
  | _ => .error .wrongType

/-- The members of a value that has to be a sequence.  Those that are made only now come into being below a
site. -/
def sequenceAt (site : Site) (value : Value β) : Except Fault (List (Value β)) := do
  pure (placedAll site 0 (← value.sequence))

/-- A number of axes, which may be left open. -/
def axisCount : Option Datum → Except Fault (Option Whole)
  | none | some (.scalar _ .null) => .ok none
  | some datum => do pure (some (← datum.whole))

/-- A shape for a stack, which may be left open. -/
def stackDimensions : Option Datum → Except Fault (Option (List Whole))
  | none | some (.scalar _ .null) => .ok none
  | some datum => do pure (some (← datum.wholes))

/-- A contraction over the elements of an algebra. -/
def contraction (algebra : BoolAlgebra σ (Value β)) (kind : ContractionKind) :
    Contraction σ (Value β) Label where
  sum :=
    match kind with
    | .logical => algebra.any
    | .linear => algebra.parity
  product := algebra.conj

/-- The result of a contraction of some values.  A single value that is contracted onto its own labels is
the result itself. -/
def contracted (operands : List (Value β × List Label)) (output : List Label)
    (result : Tensor (Value β)) : Value β :=
  match operands with
  | [(operand, labels)] => if labels == output then operand else .ofTensor result
  | _ => .ofTensor result

end Value

namespace Expr

variable {σ β : Type} [HasJournal σ]

mutual

/-- The value of an expression, which is evaluated at a site.  Operands are evaluated from left to right, then
the arguments of the operation are read, then the operation is carried out.  What is new comes into being
at the site. -/
def eval [Platform] (interpretation : Interpretation σ β) (environment : Environment β) (site : Site) :
    Expr → Act σ (Value β)
  | .top => pure interpretation.algebra.top
  | .bot => pure interpretation.algebra.bot
  | .lift given => pure (interpretation.algebra.lift given.truth)
  | .datum given => pure ((Value.ofDatum given).placed site)
  | .leaf name => do interpretation.leaf name
  | .ref name =>
      match environment.lookup name with
      | some found => pure found
      | none => throw (.unbound name)
  | .letIn name value body => do
      let bound ← eval interpretation environment (site.operand 0) value
      eval interpretation ((name, bound) :: environment) (site.operand 1) body
  | .list items => do
      pure ((Value.ofList (← evalAll interpretation environment site 0 items)).placed site)
  | .data shape values => do
      pure ((Value.ofTensor ((← Tensor.ofData shape values).map Value.ofDatum)).placed site)
  | .tensor shape elems => do
      let elements ← evalAll interpretation environment site 0 elems
      let dimensions ← shape.shape
      pure ((Value.ofTensor (← Tensor.ofElems dimensions elements)).placed site)
  | .constant shape value => do
      let element ← eval interpretation environment (site.operand 0) value
      let dimensions ← shape.shape
      Shape.checkStorage dimensions
      pure ((Value.ofTensor (Tensor.constant dimensions element)).placed site)
  | .cell source index => do
      let operand ← eval interpretation environment (site.operand 0) source
      pure ((← operand.cell index).placed site)
  | .item source => do
      let operand ← eval interpretation environment (site.operand 0) source
      (← operand.tensorFor "item").item
  | .reshape source shape axes => do
      let operand ← eval interpretation environment (site.operand 0) source
      let tensor ← operand.tensorFor "reshape"
      let result ← tensor.reshapeOfData shape axes
      pure (if tensor.isKept shape axes then operand else (Value.ofTensor result).placed site)
  | .diagonal source axes default => do
      let operand ← (← eval interpretation environment (site.operand 0) source).tensorFor "diagonal"
      let otherwise ← eval interpretation environment (site.operand 1) default
      let result ← operand.diagonalOfData axes otherwise
      pure ((Value.ofTensor result).placed site)
  | .unstack source => do
      let operand ← (← eval interpretation environment (site.operand 0) source).tensorFor "unstack"
      pure ((Value.ofList ((← operand.unstack).map .ofTensor)).placed site)
  | .stack sources shape => do
      let operands ← (← eval interpretation environment (site.operand 0) sources).sequence
      let dimensions ← Value.stackDimensions shape
      let result ← Tensor.stackWith (Value.tensorFor "_Tensor__shape") operands dimensions
      pure ((Value.ofTensor result).placed site)
  | .concat left right => do
      let first ← eval interpretation environment (site.operand 0) left
      let second ← eval interpretation environment (site.operand 1) right
      let result ← (← first.tensorFor "order").concat (← second.tensorFor "_Tensor__shape")
      pure ((Value.ofTensor result).placed site)
  | .contract kind sources labels output => do
      let (contraction, operands) ← evalTerms interpretation environment site 0
        (Value.contraction interpretation.algebra kind) sources labels
      let asked ← output.labels (site.operand sources.length)
      pure ((Value.contracted operands asked (← contraction.contract asked)).placed site)
  | .fold operation source count => do
      let operand ← (← eval interpretation environment (site.operand 0) source).tensorFor "fold"
      let result ← interpretation.algebra.foldTensor operation operand (← Value.axisCount count)
      pure ((Value.ofTensor result).placed site)
  | .neg operand => do
      interpretation.algebra.neg (← eval interpretation environment (site.operand 0) operand)
  | .connective operation left right => do
      let first ← eval interpretation environment (site.operand 0) left
      let second ← eval interpretation environment (site.operand 1) right
      interpretation.algebra.connective operation first second
  | .aggregate operation elements => do
      let operand ← eval interpretation environment (site.operand 0) elements
      interpretation.algebra.aggregate operation (← operand.sequenceAt site.parts)
  | .compare comparison lefts rights => do
      let first ← eval interpretation environment (site.operand 0) lefts
      let second ← eval interpretation environment (site.operand 1) rights
      let firsts ← first.sequence
      let seconds ← second.sequence
      interpretation.algebra.compare comparison firsts seconds
  | .negTensor source => do
      let operand ← (← eval interpretation environment (site.operand 0) source).tensorFor "map"
      let result ← interpretation.algebra.negTensor operand
      pure ((Value.ofTensor result).placed site)
  | .liftTensor source => do
      let operand ← (← eval interpretation environment (site.operand 0) source).tensorFor "map"
      let result := interpretation.algebra.liftTensor Value.truth operand
      pure ((Value.ofTensor result).placed site)
  | .connectiveTensor operation left right => do
      let first ← eval interpretation environment (site.operand 0) left
      let second ← eval interpretation environment (site.operand 1) right
      let operand ← first.tensorFor "map2"
      let result ← interpretation.algebra.connectiveTensor operation operand (← second.asTensor)
      pure ((Value.ofTensor result).placed site)
  | .misapplied operands => do
      let _ ← evalAll interpretation environment site 0 operands
      throw .wrongType

/-- The values of the operands of an expression at a site, counted from a number on, from left to right. -/
def evalAll [Platform] (interpretation : Interpretation σ β) (environment : Environment β) (site : Site)
    (number : Nat) : List Expr → Act σ (List (Value β))
  | [] => pure []
  | expression :: expressions => do
      let value ← eval interpretation environment (site.operand number) expression
      pure (value :: (← evalAll interpretation environment site (number + 1) expressions))

/-- The contraction to which the values of the operands of an expression at a site are added, each as soon as
it is evaluated, with its labels; and these values. -/
def evalTerms [Platform] (interpretation : Interpretation σ β) (environment : Environment β) (site : Site)
    (number : Nat) (contraction : Contraction σ (Value β) Label) : List Expr → List Datum →
      Act σ (Contraction σ (Value β) Label × List (Value β × List Label))
  | expression :: expressions, given :: remaining => do
      let term ← eval interpretation environment (site.operand number) expression
      let labels ← given.labels (site.operand number)
      let extended ← contraction.addGiven term.asTensor (.ok labels)
      let (whole, terms) ← evalTerms interpretation environment site (number + 1) extended
        expressions remaining
      pure (whole, (term, labels) :: terms)
  | _, _ => pure (contraction, [])

end

end Expr

end TensorLogic
