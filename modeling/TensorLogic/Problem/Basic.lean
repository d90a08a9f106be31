/-
Module: TensorLogic.Problem.Basic
Purpose: Predicates over tensors of given shapes, and checking them on given tensors.
Main exports: Mask, Problem, Problem.create, Problem.compute, Problem.check
-/
import TensorLogic.Expr.Eval

namespace TensorLogic

/-!
A problem asks for tensors of truth values on which a predicate holds.  Each of the tensors has a mask
of the same shape.  The mask selects the cells that tell solutions apart: two solutions that agree on
all selected cells count as one.
-/

/-- What a mask is given by: a shape, every cell of which is selected, or a tensor of data, which
selects the cells where it is true. -/
inductive Mask where
  | full (shape : Datum)
  | cells (tensor : Tensor Datum)

/-- The tensor that a mask is. -/
def Mask.tensor [Platform] : Mask → Except Fault (Tensor Datum)
  | full shape => Tensor.constantOfData shape (.bool true)
  | cells tensor => .ok tensor

/-- The masks of the tensors, the predicate, in which the names `0`, `1`, ... stand for the tensors, and
the number of solutions after which progress is announced. -/
structure Problem where
  masks : List (Tensor Datum)
  predicate : Expr
  interval : Int := 100000

namespace Problem

/-- The problem with the given masks.  There has to be a predicate, which is looked at first. -/
def create [Platform] (masks : List Mask) (predicate : Option Expr) (interval : Int) :
    Except Fault Problem :=
  match predicate with
  | none => .error .noPredicate
  | some predicate => do pure { masks := ← masks.mapM Mask.tensor, predicate, interval }

/-- The shapes of the tensors. -/
def shapes (problem : Problem) : List Shape := problem.masks.map Tensor.shape

/-- How a problem is described.  The address of an object is left open. -/
def describe (problem : Problem) (title : String) : String :=
  "<" ++ title ++ " 0x: shapes " ++ Text.tupled (problem.shapes.map countsText) ++ ">"

/-- The names of the tensors. -/
def environment {β : Type} (tensors : List (Tensor (Value β))) : Environment β :=
  tensors.zipIdx.map fun (tensor, number) => (toString number, .ofTensor tensor)

/-- The value of the predicate on tensors of elements of an algebra. -/
def compute [Platform] {σ β : Type} [HasJournal σ] (problem : Problem)
    (algebra : BoolAlgebra σ (Value β)) (tensors : List (Tensor (Value β))) : Act σ (Value β) :=
  problem.predicate.eval { algebra } (environment tensors) []

/-- Whether the predicate holds on given tensors, whose shapes have to agree with those of the
problem. -/
def check [Platform] {σ β : Type} [HasJournal σ] (problem : Problem) (tensors : List (Tensor (Value β))) :
    Act σ Bool := do
  if (tensors.map Tensor.shape).map Shape.values = problem.shapes.map Shape.values then
    pure (← problem.compute Truth.algebra tensors).truth
  else throw (.solutionShapes problem.shapes (tensors.map Tensor.shape))

end Problem

end TensorLogic
