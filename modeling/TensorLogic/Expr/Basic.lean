/-
Module: TensorLogic.Expr.Basic
Purpose: The expressions that predicates are written in.
Main exports: Expr, ContractionKind
-/
import TensorLogic.Algebra.Operation

namespace TensorLogic

/-!
An expression is built from the constants of an algebra, plain data and named values by the operations
of the algebra, by tensor operations and by contractions.  It does not mention an algebra: the same
expression is checked on truth values and compiled into a formula.

Arguments that are not computed, such as shapes and axis maps, are data; they are read when the
operation is carried out, after the operands are computed.
-/

/-- What a contraction over the elements of an algebra sums with: disjunction, so that a label is
quantified existentially, or exclusive disjunction. -/
inductive ContractionKind where
  | logical
  | linear
deriving Repr, DecidableEq

/-- Expressions over an arbitrary algebra. -/
inductive Expr where
  /-- The true constant. -/
  | top
  /-- The false constant. -/
  | bot
  /-- The constant for the truth value that a datum counts as. -/
  | lift (datum : Datum)
  /-- A datum as it is. -/
  | datum (datum : Datum)
  /-- An input of a circuit. -/
  | leaf (name : String)
  /-- A named value. -/
  | ref (name : String)
  /-- A value named for the body. -/
  | letIn (name : String) (value body : Expr)
  /-- A list of values. -/
  | list (items : List Expr)
  /-- A tensor of data. -/
  | data (shape values : Datum)
  /-- A tensor of values in storage order. -/
  | tensor (shape : Datum) (elems : List Expr)
  /-- A tensor whose elements are all the same. -/
  | constant (shape : Datum) (value : Expr)
  /-- The element of a tensor, or the member of a sequence, that an index names. -/
  | cell (tensor : Expr) (index : Datum)
  /-- The element of a tensor that has only one. -/
  | item (tensor : Expr)
  /-- The tensor of a new shape that reads its elements through an axis map. -/
  | reshape (tensor : Expr) (shape axes : Datum)
  /-- The tensor whose axes come from the listed ones, with a value off the diagonals. -/
  | diagonal (tensor : Expr) (axes : Datum) (default : Expr)
  /-- The list of tensors that a tensor is stacked from. -/
  | unstack (tensor : Expr)
  /-- The members of a list, stacked. -/
  | stack (tensors : Expr) (shape : Option Datum)
  /-- Two tensors put together along their last axes. -/
  | concat (left right : Expr)
  /-- The contraction of labelled tensors onto output labels. -/
  | contract (kind : ContractionKind) (tensors : List Expr) (labels : List Datum) (output : Datum)
  /-- An operation on sequences along the leading axes of a tensor. -/
  | fold (aggregate : Aggregate) (tensor : Expr) (count : Option Datum)
  /-- Negation. -/
  | neg (operand : Expr)
  /-- An operation on two operands. -/
  | connective (connective : Connective) (left right : Expr)
  /-- An operation on a sequence. -/
  | aggregate (aggregate : Aggregate) (elements : Expr)
  /-- A comparison of two sequences. -/
  | compare (comparison : Comparison) (lefts rights : Expr)
  /-- Negation, element by element. -/
  | negTensor (tensor : Expr)
  /-- The constants for the truth values that the elements count as. -/
  | liftTensor (tensor : Expr)
  /-- An operation on two operands, element by element. -/
  | connectiveTensor (connective : Connective) (left right : Expr)
  /-- An operation with another number of operands than it takes, which has no value. -/
  | misapplied (operands : List Expr)
deriving Inhabited

end TensorLogic
