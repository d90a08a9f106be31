/-
Module: TensorLogic.Sat.Engine
Purpose: What decides formulas: search engines and their names.
Main exports: Verdict, Engine, Engine.least, Engine.greatest, Engine.silent, Engine.standard,
  Engine.eval_of_learnedVerdict?, Engine.eval_eq_false_of_learnedVerdict?
-/
import TensorLogic.Sat.Least
import TensorLogic.Sat.Search

namespace TensorLogic

/-!
A back-end hands its formula to an engine and believes the verdict.  Nothing is assumed of an engine by
its type: it may be wrong, it may give up, and it may answer the same question differently the next
time, for which it is told how many questions were asked before.
-/

/-- The answer of an engine.  The assignment of a satisfiable formula also gives a value to the
variables that are allocated later. -/
inductive Verdict where
  | satisfiable (model : Assignment)
  | unsatisfiable
  | undecided

/-- A search engine: the name under which it is chosen, the name in the description of a back-end that
uses it, and its verdict on the clauses over a number of variables. -/
structure Engine where
  name : String
  title : String
  decide : (round numVars : Nat) → Formula → Verdict

namespace Engine

/-- The least number that is above all variables of a formula. -/
def variableCount (formula : Formula) : Nat :=
  formula.foldl (fun count clause =>
    clause.foldl (fun count literal => Nat.max count (literal.natAbs + 1)) count) 0

/-- The verdict of the plain search. -/
def plainVerdict (preferred : Bool) (numVars : Nat) (formula : Formula) : Verdict :=
  match Sat.leastModel? preferred numVars formula with
  | some model => .satisfiable model
  | none => .unsatisfiable

/-- The verdict of the search that learns, if it comes to one and that is confirmed. -/
def learnedVerdict? (preferred isLeast : Bool) (numVars : Nat) (formula : Formula) :
    Option Verdict :=
  let count := variableCount formula
  match Sat.learn preferred isLeast count formula with
  | .model steps facts =>
      (Sat.foundModel? preferred isLeast (2 * count) numVars formula steps facts).map .satisfiable
  | .refutation facts =>
      if Sat.refutes (2 * count) formula facts then some .unsatisfiable else none
  | .unknown => none

/-- A confirmed model is one. -/
theorem eval_of_learnedVerdict? {preferred isLeast : Bool} {numVars : Nat} {formula : Formula}
    {model : Assignment}
    (verdict : learnedVerdict? preferred isLeast numVars formula = some (.satisfiable model)) :
    formula.eval model = true := by
  simp only [learnedVerdict?] at verdict
  split at verdict
  · obtain ⟨found, isFound, same⟩ := Option.map_eq_some_iff.1 verdict
    cases same
    exact Sat.eval_of_foundModel? isFound
  · split at verdict <;> cases verdict
  · cases verdict

/-- A formula that is confirmed to have no model has none. -/
theorem eval_eq_false_of_learnedVerdict? {preferred isLeast : Bool} {numVars : Nat}
    {formula : Formula}
    (verdict : learnedVerdict? preferred isLeast numVars formula = some .unsatisfiable)
    (assignment : Assignment) : formula.eval assignment = false := by
  simp only [learnedVerdict?] at verdict
  split at verdict
  · obtain ⟨found, _, impossible⟩ := Option.map_eq_some_iff.1 verdict
    cases impossible
  · split at verdict
    · exact Sat.eval_eq_false_of_refutes (by assumption) assignment
    · cases verdict
  · cases verdict

/-- With so few variables there is nothing to be learned. -/
def plainLimit : Nat := 8

/-- Variables from this number on are too many for tables. -/
def tableLimit : Nat := 0x200000

/-- The verdict on a formula.  Where the search that learns is of no use, the plain search decides. -/
def searchVerdict (preferred isLeast : Bool) (_round numVars : Nat) (formula : Formula) : Verdict :=
  let count := variableCount formula
  if count ≤ plainLimit ∨ tableLimit < count then plainVerdict preferred numVars formula
  else
    match learnedVerdict? preferred isLeast numVars formula with
    | some verdict => verdict
    | none => plainVerdict preferred numVars formula

/-- The engine that finds the least model, with false before true. -/
def least : Engine := ⟨"lex", "LexBackend", searchVerdict false true⟩

/-- The engine that finds the greatest model. -/
def greatest : Engine := ⟨"revlex", "RevLexBackend", searchVerdict true true⟩

/-- The engine that never decides. -/
def silent : Engine := ⟨"lex", "FailBackend", fun _ _ _ => .undecided⟩

/-- The engine that is used unless another one is chosen. -/
def standard : Engine := ⟨"z3", "Z3Backend", searchVerdict false false⟩

/-- The least model of two variables that are not both false. -/
example :
    (match least.decide 0 3 [[1, 2], [-1, 2]] with
      | .satisfiable model => [model 1, model 2, model 3]
      | _ => []) = [false, true, false] := by decide +kernel

end Engine

end TensorLogic
