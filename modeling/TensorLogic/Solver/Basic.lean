/-
Module: TensorLogic.Solver.Basic
Purpose: Solvers: literals and their owners, clauses over them, and models.
Main exports: Scope, Lit, Solver, Solver.create, Solver.clear, Solver.check, Solver.newVariable,
  Solver.addClause, Solver.solve, Solver.decode
-/
import TensorLogic.Cnf.Basic
import TensorLogic.Effect
import TensorLogic.Sat.Backend
import TensorLogic.Tensor.Capacity
import TensorLogic.Tensor.Pointwise

namespace TensorLogic

/-!
A solver builds a formula over literals that it hands out.  A literal belongs to the solver that made
it, and to the formula that the solver had then: once the solver is cleared, the literals of the old
formula are of no use.  Only the two constants of a solver stay with it.  Every operation first checks
that each of its literals belongs to the present formula, and does nothing if one does not.

The first variable is the true constant; the first clause says that it is true.
-/

/-- What a literal belongs to: to a solver as one of its constants, or to one of the successive formulas
of a solver. -/
inductive Scope where
  | constants (owner : Nat)
  | formula (owner period : Nat)
deriving Repr, DecidableEq

/-- A literal.  Within a formula each code is allocated once, together with its negation, and a new variable
takes a code that no literal has had there; so two literals are one and the same exactly when they belong to
the same formula, or to the constants of the same solver, and have the same code. -/
structure Lit where
  scope : Scope
  code : Int
deriving Repr, DecidableEq

/-- The negation of a literal, which belongs to the same. -/
def Lit.neg (literal : Lit) : Lit := { literal with code := -literal.code }

/-- The negation of the negation is the literal itself. -/
@[simp]
theorem Lit.neg_neg (literal : Lit) : literal.neg.neg = literal := by
  simp [Lit.neg]

/-- How a literal is described. -/
def Lit.describe (literal : Lit) : String := "<Lit " ++ Text.writeNumeral literal.code ++ ">"

/-- A solver: its number among all solvers, its back-end, the number of its present formula, and totals
over all of its formulas. -/
structure Solver where
  owner : Nat
  backend : Backend
  period : Nat := 0
  totalVariables : Nat := 0
  totalClauses : Nat := 0
  totalSolves : Nat := 0
  journal : Journal := #[]

namespace Solver

instance : HasJournal Solver :=
  ⟨fun event solver => { solver with journal := solver.journal.push event }⟩

/-- The true constant of the solver with the given number. -/
def top (owner : Nat) : Lit := ⟨.constants owner, 1⟩

/-- The false constant of the solver with the given number. -/
def bot (owner : Nat) : Lit := ⟨.constants owner, -1⟩

/-- The constants are distinct. -/
theorem bot_ne_top (owner : Nat) : bot owner ≠ top owner := by
  simp [bot, top]

/-- The constant for a truth value. -/
def lift (owner : Nat) (value : Bool) : Lit := if value then top owner else bot owner

/-- How a solver is described.  The address of an object is left open. -/
def describe (solver : Solver) : String :=
  "<SatSolver 0x: " ++ toString solver.backend.numVars ++ " vars, "
    ++ toString solver.backend.numClauses ++ " clauses>"

/-- The numbers of variables and clauses of the present formula, and the totals over all formulas. -/
def counters (solver : Solver) : List Nat :=
  [solver.backend.numVars, solver.backend.numClauses, solver.totalVariables, solver.totalClauses,
    solver.totalSolves]

/-- The formula of a solver. -/
def toCnf (solver : Solver) : Except Fault Cnf :=
  Cnf.ofClauses (.number solver.backend.numVars) solver.backend.clauses.toList

/-- Carry out an operation of the back-end. -/
def onBackend {α : Type} (action : Act Backend α) : Act Solver α :=
  ExceptT.mk fun solver =>
    let result := action.run.run solver.backend
    (result.1, { solver with backend := result.2 })

/-- Discard all variables and clauses.  The new formula says that the first variable is true, and the
literals of the old one do not belong to it. -/
def clear : Act Solver Unit := do
  onBackend Backend.reset
  let first ← onBackend Backend.newVariable
  onBackend (Backend.addClause [.number first])
  modify fun solver => { solver with period := solver.period + 1 }

/-- The solver with the given number on a back-end, whose formula is discarded. -/
def create (owner : Nat) (backend : Backend) : Solver :=
  (clear.run.run { owner, backend }).2

/-- Whether a literal belongs to the present formula. -/
def Owns (solver : Solver) (literal : Lit) : Prop :=
  literal.scope = .formula solver.owner solver.period ∨ literal.scope = .constants solver.owner

instance (solver : Solver) (literal : Lit) : Decidable (solver.Owns literal) :=
  inferInstanceAs (Decidable (_ ∨ _))

/-- Check that a literal belongs to the present formula. -/
def check (literal : Lit) : Act Solver Unit := do
  if (← get).Owns literal then pure () else throw (.foreignLiteral literal.code)

/-- Allocate a variable without any constraints. -/
def newVariable : Act Solver Lit := do
  let number ← onBackend Backend.newVariable
  let solver ← get
  set { solver with totalVariables := solver.totalVariables + 1 }
  pure ⟨.formula solver.owner solver.period, number⟩

/-- A tensor of fresh variables, allocated in storage order.  None is allocated where the coordinates on some
axis cannot be listed. -/
def variableTensor [Platform] (shape : Shape) : Act Solver (Tensor Lit) := do
  Shape.checkRanges (shape.map Count.toWhole)
  Tensor.generateM shape fun _ => newVariable

/-- The clause that is kept of given literals: none if the true constant is among them; otherwise
without the false constant, which alone stays where nothing else is left. -/
def simplify? (codes : Clause) : Option Clause :=
  if codes.contains 1 then none
  else
    match codes.filter (· != -1) with
    | [] => some [-1]
    | kept => some kept

/-- A clause with the true constant says nothing, and one without literals says the false constant. -/
example :
    simplify? [2, 1] = none ∧ simplify? [-1, 2] = some [2] ∧ simplify? [-1] = some [-1] ∧
      simplify? [] = some [-1] := by decide

/-- Assert that at least one of the literals is true. -/
def addClause (literals : List Lit) : Act Solver Unit := do
  literals.forM check
  match simplify? (literals.map Lit.code) with
  | none => pure ()
  | some clause => do
      onBackend (Backend.addClause clause.written)
      modify fun solver => { solver with totalClauses := solver.totalClauses + 1 }

/-- Decide whether all clauses can be satisfied. -/
def solve : Act Solver Bool := do
  let solver ← get
  set { solver with totalSolves := solver.totalSolves + 1 }
  announce (.solving solver.backend.numVars solver.backend.numClauses)
  let satisfiable ← onBackend Backend.solve
  announce (.solved satisfiable)
  pure satisfiable

/-- The value of a literal in the model that the last search found. -/
def decode (literal : Lit) : Act Solver Bool := do
  check literal
  if (← get).backend.status = some true then onBackend (Backend.modelValue (.number literal.code))
  else throw .noDecoding

/-- The values of all literals of a tensor. -/
def decodeTensor (tensor : Tensor Lit) : Act Solver (Tensor Bool) := tensor.mapM decode

end Solver

end TensorLogic
