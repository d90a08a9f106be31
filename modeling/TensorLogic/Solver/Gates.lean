/-
Module: TensorLogic.Solver.Gates
Purpose: Gates: literals that clauses make equivalent to an operation on other literals.
Main exports: Solver.neg, Solver.conj, Solver.disj, Solver.xor, Solver.all, Solver.any
-/
import TensorLogic.Solver.LitSet

namespace TensorLogic.Solver

/-!
Where the operands decide the result by what they are, being constants or the same or each other's
negation, the result is a literal that exists already.  Otherwise a variable is allocated, and clauses
say that it is equivalent to the result: each assignment to the other variables leaves it exactly one
value.
-/

/-- Check that literals belong to the present formula. -/
def checkAll (literals : List Lit) : Act Solver Unit := literals.forM check

/-- Allocate a variable and add the clauses that define it. -/
def define (clauses : Lit → List (List Lit)) : Act Solver Lit := do
  let output ← newVariable
  (clauses output).forM addClause
  pure output

/-- The negation of a literal. -/
def neg (operand : Lit) : Act Solver Lit := do
  check operand
  pure operand.neg

/-- The literal that a conjunction comes to without a gate. -/
def simpleConj? (owner : Nat) (left right : Lit) : Option Lit :=
  if left = bot owner ∨ right = bot owner then some (bot owner)
  else if left = top owner then some right
  else if right = top owner ∨ left = right then some left
  else if left = right.neg then some (bot owner)
  else none

/-- The clauses of a conjunction. -/
def conjClauses (left right output : Lit) : List (List Lit) :=
  [[left, output.neg], [right, output.neg], [left.neg, right.neg, output]]

/-- Conjunction. -/
def conj (left right : Lit) : Act Solver Lit := do
  checkAll [left, right]
  match simpleConj? (← get).owner left right with
  | some simple => pure simple
  | none => define (conjClauses left right)

/-- The literal that a disjunction comes to without a gate. -/
def simpleDisj? (owner : Nat) (left right : Lit) : Option Lit :=
  if left = top owner ∨ right = top owner then some (top owner)
  else if left = bot owner then some right
  else if right = bot owner ∨ left = right then some left
  else if left = right.neg then some (top owner)
  else none

/-- The clauses of a disjunction. -/
def disjClauses (left right output : Lit) : List (List Lit) :=
  [[left.neg, output], [right.neg, output], [left, right, output.neg]]

/-- Disjunction. -/
def disj (left right : Lit) : Act Solver Lit := do
  checkAll [left, right]
  match simpleDisj? (← get).owner left right with
  | some simple => pure simple
  | none => define (disjClauses left right)

/-- The literal that an exclusive disjunction comes to without a gate. -/
def simpleXor? (owner : Nat) (left right : Lit) : Option Lit :=
  if left = top owner then some right.neg
  else if left = bot owner then some right
  else if right = top owner then some left.neg
  else if right = bot owner then some left
  else if left = right then some (bot owner)
  else if left = right.neg then some (top owner)
  else none

/-- The clauses of an exclusive disjunction. -/
def xorClauses (left right output : Lit) : List (List Lit) :=
  [[left, right, output.neg], [left, right.neg, output], [left.neg, right, output],
    [left.neg, right.neg, output.neg]]

/-- Exclusive disjunction. -/
def xor (left right : Lit) : Act Solver Lit := do
  checkAll [left, right]
  match simpleXor? (← get).owner left right with
  | some simple => pure simple
  | none => define (xorClauses left right)

/-- The clauses of a conjunction of many literals. -/
def allClauses (literals : List Lit) (output : Lit) : List (List Lit) :=
  literals.map (fun literal => [literal, output.neg]) ++ [literals.map Lit.neg ++ [output]]

/-- Conjunction of all literals, with a single gate. -/
def all (literals : List Lit) : Act Solver Lit := do
  checkAll literals
  let owner := (← get).owner
  match distinctLits? (top owner) (bot owner) literals with
  | none => pure (bot owner)
  | some [] => pure (top owner)
  | some [literal] => pure literal
  | some found => define (allClauses found)

/-- The clauses of a disjunction of many literals. -/
def anyClauses (literals : List Lit) (output : Lit) : List (List Lit) :=
  literals.map (fun literal => [literal.neg, output]) ++ [literals ++ [output.neg]]

/-- Disjunction of all literals, with a single gate. -/
def any (literals : List Lit) : Act Solver Lit := do
  checkAll literals
  let owner := (← get).owner
  match distinctLits? (bot owner) (top owner) literals with
  | none => pure (top owner)
  | some [] => pure (bot owner)
  | some [literal] => pure literal
  | some found => define (anyClauses found)

end TensorLogic.Solver
