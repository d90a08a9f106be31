/-
Module: TensorLogic.Solver.Algebra
Purpose: The Boolean algebra of the literals of a solver.
Main exports: Solver.operand, Solver.operands, Solver.algebra, Solver.assertAny, Solver.decodeValue,
  Solver.codedLiteral
-/
import TensorLogic.Argument
import TensorLogic.Solver.Gates
import TensorLogic.Value

namespace TensorLogic.Solver

/-!
In this algebra an expression compiles into a formula.  Its elements are values, since an expression may
hand it anything; an operation checks its operands one after the other, each for being a literal and
for belonging to the present formula.
-/

/-- A value that has to be a literal of the present formula. -/
def operand (value : Value Lit) : Act Solver Lit :=
  match value with
  | .elem literal => do
      check literal
      pure literal
  | other => throw (.notLiteral (other.text Lit.describe))

/-- Values that have to be literals of the present formula. -/
def operands : List (Value Lit) → Act Solver (List Lit)
  | [] => pure []
  | value :: values => do
      let literal ← operand value
      pure (literal :: (← operands values))

/-- An operation on two literals as one on values. -/
def onOperands (operation : Lit → Lit → Act Solver Lit) (left right : Value Lit) :
    Act Solver (Value Lit) := do
  let first ← operand left
  let second ← operand right
  pure (.elem (← operation first second))

/-- An operation on many literals as one on values. -/
def onAll (operation : List Lit → Act Solver Lit) (values : List (Value Lit)) :
    Act Solver (Value Lit) := do
  pure (.elem (← operation (← operands values)))

/-- The algebra of the literals of the solver with the given number. -/
def algebra (owner : Nat) : BoolAlgebra Solver (Value Lit) where
  toConstants := Value.elementConstants (bot owner) (top owner) (bot_ne_top owner)
  neg := fun value => do pure (.elem (← neg (← operand value)))
  conj := onOperands conj
  disj := onOperands disj
  xor := onOperands xor
  all := onAll all
  any := onAll any

/-- Assert that at least one of the values, which have to be literals, is true. -/
def assertAny (values : List (Value Lit)) : Act Solver Unit := do
  addClause (← operands values)

/-- The truth value of a value that has to be a literal, in the model that the last search found. -/
def decodeValue (value : Value Lit) : Act Solver Bool := do
  decode (← operand value)

/-- The literal that a value is, which is asked for its number and then for its code.  A number has no
code, a text is read as a numeral, and nothing else stands for a number. -/
def codedLiteral (value : Value Lit) : Except Fault Lit :=
  match value with
  | .elem literal => .ok literal
  | .scalar _ (.str text) => do
      let _ ← readToken text.toList
      .error (.missingMember value.kind "code")
  | .scalar _ scalar =>
      if scalar.number?.isSome then .error (.missingMember value.kind "code") else .error .wrongType
  | _ => .error .wrongType

end TensorLogic.Solver
