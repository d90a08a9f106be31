/-
Module: TensorLogic.Sat.Backend
Purpose: The formula that is being built up, and what is known about it.
Main exports: Backend, Backend.newVariable, Backend.addClause, Backend.solve, Backend.modelValue,
  Backend.reset, Backend.isSatisfiable
-/
import TensorLogic.Effect
import TensorLogic.Sat.Engine

namespace TensorLogic

/-!
A back-end keeps the variables and clauses since its last reset.  Variables are numbered from one on.
Clauses are kept as they are given, and the engine is handed what they mean.
It also keeps the decision of the last search, until a clause is added; variables may be added without
losing it, and have a value in the model like all others.
-/

/-- What a search decided. -/
inductive Decision where
  | model (assignment : Assignment)
  | unsatisfiable

/-- A formula, the engine that decides it, the number of searches so far, and the decision of the last
search if the formula is still the one it was. -/
structure Backend where
  engine : Engine
  numVars : Nat := 0
  clauses : Array WrittenClause := #[]
  rounds : Nat := 0
  decision : Option Decision := none

namespace Backend

/-- Whether the formula was found satisfiable, if that is known. -/
def status (backend : Backend) : Option Bool :=
  backend.decision.map fun
    | .model _ => true
    | .unsatisfiable => false

/-- The formula that the clauses mean. -/
def formula (backend : Backend) : Formula := backend.clauses.toList.map WrittenClause.literals

/-- The number of clauses. -/
def numClauses (backend : Backend) : Nat := backend.clauses.size

/-- How a back-end is described.  The address of an object is left open. -/
def describe (backend : Backend) : String :=
  "<" ++ backend.engine.title ++ " 0x: " ++ toString backend.numVars ++ " vars, "
    ++ toString backend.numClauses ++ " clauses>"

/-- Allocate a variable. -/
def newVariable : Act Backend Nat := do
  let backend ← get
  set { backend with numVars := backend.numVars + 1 }
  pure (backend.numVars + 1)

/-- Add a clause.  All of its literals have to be of allocated variables. -/
def addClause (clause : WrittenClause) : Act Backend Unit := do
  let backend ← get
  match clause.find? (fun literal => !decide (IsLiteral backend.numVars literal.value)) with
  | some literal => throw (.invalidLiteral (.ofWhole literal) backend.numVars)
  | none => set { backend with clauses := backend.clauses.push clause, decision := none }

/-- Search for a model. -/
def solve : Act Backend Bool := do
  let backend ← get
  let asked := { backend with rounds := backend.rounds + 1, decision := none }
  set asked
  match backend.engine.decide backend.rounds backend.numVars backend.formula with
  | .satisfiable model => do
      set { asked with decision := some (.model model) }
      pure true
  | .unsatisfiable => do
      set { asked with decision := some .unsatisfiable }
      pure false
  | .undecided => throw .undecided

/-- The value of a literal in the model that the last search found. -/
def modelValue (literal : Whole) : Act Backend Bool := do
  let backend ← get
  match backend.decision with
  | some (.model assignment) =>
      if IsLiteral backend.numVars literal.value then pure (assignment.holds literal.value)
      else throw (.invalidLiteral (.ofWhole literal) backend.numVars)
  | _ => throw .noModel

/-- What is wrong with a literal that is not whole: it is zero, or greater than every variable, or else of
the wrong type altogether. -/
def fractionFault (backend : Backend) (literal : Datum) : Fault :=
  match literal.number? with
  | none => .wrongType
  | some number =>
      let limit := Quantity.ofInt backend.numVars
      if number.equal (.ofInt 0) || limit.less number ||
          number.less (.ofInt (-(backend.numVars : Int))) then
        .invalidLiteral literal backend.numVars
      else .wrongType

/-- The value of a literal that is given as a datum.  There has to be a model in the first place. -/
def modelValueOfData (literal : Datum) : Act Backend Bool := do
  let backend ← get
  match literal.whole?, backend.status with
  | some number, _ => modelValue number
  | none, some true => throw (backend.fractionFault literal)
  | none, _ => throw .noModel

/-- Discard all variables and clauses. -/
def reset : Act Backend Unit :=
  modify fun backend => { backend with numVars := 0, clauses := #[], decision := none }

/-- Replace the formula by a given one. -/
def load (cnf : Cnf) : Act Backend Unit := do
  reset
  modify fun backend => { backend with numVars := cnf.numVars.value }
  cnf.clauses.forM addClause

/-- Whether a formula is satisfiable.  The back-end holds it afterwards. -/
def isSatisfiable (cnf : Cnf) : Act Backend Bool := do
  load cnf
  solve

end Backend

end TensorLogic
