/-
Module: TensorLogic.Solver.Bench
Purpose: Several solvers side by side, and the values that they computed, under names.
Main exports: Solver.evaluate, Bench, Bench.create, Bench.on, Bench.resultSite, Bench.operandSite,
  Bench.keep
-/
import TensorLogic.Expr.Eval
import TensorLogic.Solver.Algebra

namespace TensorLogic

/-!
A value that one solver computed can be given to any other, which refuses the literals in it.  So the
solvers that are used side by side are numbered, each is the owner of its literals under this number,
and the values are kept in one place for all of them.  An operation of one solver leaves the others as
they are.

A kept value is an object: wherever its name is used, the same object is meant.  So every value comes into
being at a site of its own.  The occasions are the operations on the bench, of which each has a number; one
operation may evaluate several expressions.
-/

/-- The value of an expression in the algebra of the solver, with values for the names in it. -/
def Solver.evaluate [Platform] (names : Environment Lit) (site : Site) (expression : Expr) :
    Act Solver (Value Lit) := do
  expression.eval { algebra := Solver.algebra (← get).owner } names site

/-- Numbered solvers, the values under names, the latest binding of a name first, the number of operations
so far, and the events of all solvers in order. -/
structure Bench where
  solvers : Array Solver
  names : Environment Lit := []
  operations : Nat := 0
  journal : Journal := #[]

namespace Bench

/-- One solver for each back-end, numbered from zero on. -/
def create (backends : List Backend) : Bench where
  solvers := (backends.zipIdx.map fun (backend, number) => Solver.create number backend).toArray

/-- Carry out an operation of the solver with the given number; a negative number counts from the last
solver.  What it announces goes to the common journal. -/
def on {α : Type} (number : Int) (action : Act Solver α) : Act Bench α :=
  ExceptT.mk fun bench =>
    match Position.place bench.solvers.size number .listRange with
    | .error fault => (.error fault, bench)
    | .ok place =>
        let result := action.run.run bench.solvers[place]
        (result.1, {
          bench with
          operations := bench.operations + 1
          solvers := bench.solvers.setIfInBounds place { result.2 with journal := #[] }
          journal := bench.journal ++ result.2.journal })

/-- The site at which the result of the present operation comes into being, unless it was there before. -/
def resultSite (bench : Bench) : Site := [bench.operations]

/-- The site at which the present operation evaluates its expression with the given number. -/
def operandSite (bench : Bench) (number : Nat) : Site := bench.resultSite.operand number

/-- End an operation with a result, which is kept under a name if there is one. -/
def keep (name? : Option String) (value : Value Lit) : Act Bench (Value Lit) := do
  let bench ← get
  let result := value.placed bench.resultSite
  match name? with
  | some name => set { bench with names := (name, result) :: bench.names }
  | none => pure ()
  pure result

end Bench

end TensorLogic
