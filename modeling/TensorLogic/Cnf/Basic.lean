/-
Module: TensorLogic.Cnf.Basic
Purpose: Formulas in conjunctive normal form and their meaning.
Main exports: Clause, Assignment, Assignment.holds, Clause.eval, Formula.eval, IsLiteral,
  Formula.IsOver, WrittenClause, Cnf, Cnf.formula, Cnf.equal, Cnf.ofClauses, Cnf.ofData, Cnf.describe
-/
import TensorLogic.Argument

namespace TensorLogic

/-!
Variables are positive numbers, and a literal is a variable or the negative of one.  A clause is the
disjunction of its literals and a formula the conjunction of its clauses.

Literals are kept as they are given, so that they are written in the same way; what a clause means
depends on their values only.
-/

/-- The literals of a clause. -/
abbrev Clause := List Int

/-- The clauses of a formula. -/
abbrev Formula := List Clause

/-- A truth value for each variable. -/
abbrev Assignment := Nat → Bool

/-- The value of a literal: that of its variable, negated for a negative literal. -/
def Assignment.holds (assignment : Assignment) (literal : Int) : Bool :=
  if 0 < literal then assignment literal.natAbs else !assignment literal.natAbs

/-- A clause holds when one of its literals does. -/
def Clause.eval (assignment : Assignment) (clause : Clause) : Bool :=
  clause.any assignment.holds

/-- A formula holds when all of its clauses do. -/
def Formula.eval (assignment : Assignment) (formula : Formula) : Bool :=
  formula.all (Clause.eval assignment)

/-- A literal over a number of variables is not zero, and its variable is one of them. -/
def IsLiteral (numVars : Nat) (literal : Int) : Prop := literal ≠ 0 ∧ literal.natAbs ≤ numVars

instance (numVars : Nat) (literal : Int) : Decidable (IsLiteral numVars literal) :=
  inferInstanceAs (Decidable (_ ∧ _))

/-- A formula over a number of variables has no other literals than those over them. -/
def Formula.IsOver (numVars : Nat) (formula : Formula) : Prop :=
  ∀ clause ∈ formula, ∀ literal ∈ clause, IsLiteral numVars literal

instance (numVars : Nat) (formula : Formula) : Decidable (formula.IsOver numVars) :=
  inferInstanceAs (Decidable (∀ clause ∈ formula, ∀ literal ∈ clause, IsLiteral numVars literal))

/-- The literals of a clause as they are given. -/
abbrev WrittenClause := List Whole

/-- The clause that is meant. -/
def WrittenClause.literals (clause : WrittenClause) : Clause := clause.map Whole.value

/-- A clause of numbers. -/
def Clause.written (clause : Clause) : WrittenClause := clause.map Whole.number

/-- A clause of numbers means itself. -/
@[simp]
theorem Clause.literals_written (clause : Clause) : clause.written.literals = clause := by
  induction clause with
  | nil => rfl
  | cons literal clause hypothesis =>
      simp only [WrittenClause.literals, Clause.written, List.map_cons] at *
      rw [hypothesis, Whole.value_number]

/-- A formula over a number of variables. -/
structure Cnf where
  numVars : Count
  clauses : List WrittenClause
deriving Repr, DecidableEq

namespace Cnf

/-- The formula that is meant. -/
def formula (cnf : Cnf) : Formula := cnf.clauses.map WrittenClause.literals

/-- Formulas are equal when they mean the same clauses over the same number of variables. -/
def equal (left right : Cnf) : Bool :=
  left.numVars.value == right.numVars.value && left.formula == right.formula

/-- The formula with the given clauses, all of which have to be over its variables. -/
def ofClauses (numVars : Whole) (clauses : List WrittenClause) : Except Fault Cnf :=
  match numVars.count? with
  | none => .error .invalidVariables
  | some total =>
      if Formula.IsOver total.value (clauses.map WrittenClause.literals) then .ok ⟨total, clauses⟩
      else .error .invalidVariables

/-- The literals of a clause that is given as a datum.  An empty text has none, but it cannot be asked
whether a number is among them. -/
def clauseOfDatum (datum : Datum) : Except Fault (Option WrittenClause) := do
  let literals ← datum.wholes
  match datum with
  | .scalar .. => pure none
  | .list .. => pure (some literals)

/-- Each clause is asked in turn whether zero is among its literals. -/
def askForZeros : List (Option WrittenClause) → Except Fault Unit
  | [] => .ok ()
  | none :: _ => .error .wrongType
  | some clause :: clauses =>
      if clause.literals.contains 0 then .error .invalidVariables else askForZeros clauses

/-- The formula given by a number of variables and a sequence of sequences of literals.  All of them are
read first; then the greatest variable is compared with their number, and last zeros are looked for. -/
def ofData (numVars clauses : Datum) : Except Fault Cnf := do
  let total ← numVars.whole
  let given ← (← clauses.sequence).mapM clauseOfDatum
  let written := given.filterMap id
  let exceeds (literal : Int) : Bool := total.value < literal.natAbs
  if total.value < 0 || (written.flatMap WrittenClause.literals).any exceeds then
    .error .invalidVariables
  else do
    askForZeros given
    ofClauses total written

/-- The lengths of the clauses: their common length, or the least and the greatest. -/
def sizeText (clauses : List WrittenClause) : List String :=
  let lengths := clauses.map List.length
  match lengths.min?, lengths.max? with
  | some least, some greatest =>
      if least = greatest then ["k=" ++ toString least]
      else ["k in [" ++ toString least ++ ".." ++ toString greatest ++ "]"]
  | _, _ => []

/-- How a formula is described.  The address of an object is left open. -/
def describe (cnf : Cnf) : String :=
  let parts := [cnf.numVars.text ++ " vars", toString cnf.clauses.length ++ " clauses"]
    ++ sizeText cnf.clauses
  "<CNFInstance 0x: " ++ ", ".intercalate parts ++ ">"

end Cnf

end TensorLogic
