/-
Module: TensorLogic.Algebra.Operation
Purpose: The operations of a Boolean algebra as data, and their meaning on truth values.
Main exports: Connective, Aggregate, Comparison, their `eval`, and BoolAlgebra.connective,
  BoolAlgebra.aggregate, BoolAlgebra.compare
-/
import TensorLogic.Algebra.Basic

namespace TensorLogic

/-!
A predicate names its operations, so the operations are data.  Each kind has an `eval`, which says
what the operation means for truth values, without regard to any algebra.
-/

/-- The operations with two operands. -/
inductive Connective where
  | conj
  | disj
  | xor
  | iff
  | imp
deriving Repr, DecidableEq

/-- The operations on a sequence. -/
inductive Aggregate where
  | all
  | any
  | parity
  | one
  | many
  | allEqual
deriving Repr, DecidableEq

/-- The comparisons of two sequences of the same length. -/
inductive Comparison where
  | lexLt
  | lexLe
deriving Repr, DecidableEq

/-- The truth table of a connective. -/
def Connective.eval : Connective → Bool → Bool → Bool
  | conj, left, right => left && right
  | disj, left, right => left || right
  | xor, left, right => left != right
  | iff, left, right => left == right
  | imp, left, right => !left || right

/-- The meaning of an operation on a sequence.  Only equality of an empty sequence has none. -/
def Aggregate.eval : Aggregate → List Bool → Option Bool
  | all, values => some (values.all id)
  | any, values => some (values.any id)
  | parity, values => some (values.count true % 2 == 1)
  | one, values => some (values.count true == 1)
  | many, values => some (2 ≤ values.count true)
  | allEqual, [] => none
  | allEqual, first :: values => some (values.all (· == first))

/-- The strict lexicographic order of two sequences, with false before true. -/
def lexLess : List Bool → List Bool → Bool
  | left :: lefts, right :: rights =>
      (!left && right) || (left == right && lexLess lefts rights)
  | _, _ => false

/-- The meaning of a comparison.  Sequences of different lengths cannot be compared. -/
def Comparison.eval : Comparison → List Bool → List Bool → Option Bool
  | lexLt, lefts, rights =>
      if lefts.length = rights.length then some (lexLess lefts rights) else none
  | lexLe, lefts, rights =>
      if rights.length = lefts.length then some !(lexLess rights lefts) else none

namespace BoolAlgebra

variable {σ V : Type}

/-- A connective in an algebra. -/
def connective (algebra : BoolAlgebra σ V) : Connective → V → V → Act σ V
  | .conj => algebra.conj
  | .disj => algebra.disj
  | .xor => algebra.xor
  | .iff => algebra.iff
  | .imp => algebra.imp

/-- An operation on a sequence in an algebra. -/
def aggregate (algebra : BoolAlgebra σ V) : Aggregate → List V → Act σ V
  | .all => algebra.all
  | .any => algebra.any
  | .parity => algebra.parity
  | .one => algebra.one
  | .many => algebra.many
  | .allEqual => algebra.allEqual

/-- A comparison in an algebra. -/
def compare (algebra : BoolAlgebra σ V) : Comparison → List V → List V → Act σ V
  | .lexLt => algebra.lexLt
  | .lexLe => algebra.lexLe

end BoolAlgebra

end TensorLogic
