/-
Module: TensorLogic.Problem.Solve
Purpose: Solving a problem: whether it has a solution, a solution, and all solutions.
Main exports: Problem.encode, Problem.isSolvable, Problem.solveOne, Problem.solveAll,
  Problem.projections
-/
import TensorLogic.Problem.Basic
import TensorLogic.Solver.Algebra
import TensorLogic.Tensor.Stack

namespace TensorLogic.Problem

/-!
The predicate is compiled over tensors of fresh variables and its value is asserted; every model of the
formula is then a solution.  Each solution that is found is checked on truth values once more.

To find all solutions, each one that is found is excluded by a clause which says that some selected
cell has another value.
-/

/-- One tensor of truth values for each mask. -/
abbrev Solution := List (Tensor Bool)

/-- Clear the solver, allocate the variables of all tensors and assert that the predicate holds. -/
def encode [Platform] (problem : Problem) : Act Solver (List (Tensor Lit)) := do
  Solver.clear
  let unknowns ← problem.shapes.mapM Solver.variableTensor
  let owner := (← get).owner
  let value ← problem.compute (Solver.algebra owner) (unknowns.map fun tensor =>
    tensor.map Value.elem)
  Solver.assertAny [value]
  pure unknowns

/-- The tensors that the model found last gives to the variables; the predicate has to hold on
them. -/
def readSolution [Platform] (problem : Problem) (unknowns : List (Tensor Lit)) : Act Solver Solution := do
  let solution ← unknowns.mapM Solver.decodeTensor
  let holds ← problem.check (β := Empty) (solution.map fun tensor => tensor.map Value.bool)
  if holds then pure solution else throw .refutedSolution

/-- Whether the predicate holds on some tensors. -/
def isSolvable [Platform] (problem : Problem) : Act Solver Bool := do
  let _ ← problem.encode
  Solver.solve

/-- Tensors on which the predicate holds, if there are any. -/
def solveOne [Platform] (problem : Problem) : Act Solver (Option Solution) := do
  let unknowns ← problem.encode
  if ← Solver.solve then pure (some (← problem.readSolution unknowns)) else pure none

/-- The cells of a tensor that its mask selects. -/
def selected {α : Type} (mask : Tensor Datum) (tensor : Tensor α) : List α :=
  ((mask.toList.zip tensor.toList).filter fun (cell, _) => cell.truth).map Prod.snd

/-- The cells of all tensors that the masks select. -/
def projection {α : Type} (problem : Problem) (tensors : List (Tensor α)) : List α :=
  (problem.masks.zip tensors).flatMap fun (mask, tensor) => selected mask tensor

/-- The literals that say that a selected cell has another value than in a solution. -/
def blocking (problem : Problem) (unknowns : List (Tensor Lit)) (solution : Solution) :
    Act Solver (List Lit) := do
  let owner := (← get).owner
  ((problem.projection unknowns).zip (problem.projection solution)).mapM fun (literal, value) =>
    Solver.xor (Solver.lift owner value) literal

/-- Whether progress is to be announced at a number of solutions. -/
def isMilestone (interval : Int) (count : Nat) : Bool :=
  0 < interval && (count : Int) % interval == 0

/-- Find the remaining solutions, given those found so far, the last one first.  The search stops at
`limit` solutions, if that is positive.  No more rounds are made than `rounds` says. -/
def enumerate [Platform] (problem : Problem) (limit : Int) (unknowns : List (Tensor Lit))
    (found : List Solution) : (rounds : Nat) → Act Solver (List Solution)
  | 0 => throw .undecided
  | rounds + 1 => do
      if ← Solver.solve then
        let solution ← problem.readSolution unknowns
        let clause ← problem.blocking unknowns solution
        let count := found.length + 1
        if isMilestone problem.interval count then announce (.progress count)
        if 0 < limit ∧ limit ≤ count then
          announce (.stopped count)
          pure (solution :: found)
        else
          Solver.addClause clause
          enumerate problem limit unknowns (solution :: found) rounds
      else pure found

/-- The number of cells that the masks select. -/
def selectedCount (problem : Problem) : Nat :=
  (problem.masks.flatMap fun mask => mask.toList.filter Datum.truth).length

/-- There are no more different solutions than assignments to the selected cells, and one more round
finds that there is none left. -/
def maxRounds (problem : Problem) : Nat := Nat.pow 2 problem.selectedCount + 1

/-- The solutions, stacked for each mask along a new last axis. -/
def stackSolutions (problem : Problem) (solutions : List Solution) :
    Except Fault (List (Tensor Bool)) :=
  problem.masks.zipIdx.mapM fun (mask, number) =>
    Tensor.stack (solutions.filterMap (·[number]?)) (some (mask.shape.map Count.toWhole))

/-- All solutions that differ on a selected cell, or the first `limit` of them if that is positive. -/
def solveAll [Platform] (problem : Problem) (limit : Int) : Act Solver (List (Tensor Bool)) := do
  let unknowns ← problem.encode
  let found ← problem.enumerate limit unknowns [] problem.maxRounds
  announce (.enumerated found.length)
  problem.stackSolutions found.reverse

/-- The selected cells of each solution in a result of `solveAll`, in lexicographic order. -/
def projections (problem : Problem) (result : List (Tensor Bool)) :
    Except Fault (List (List Bool)) := do
  let parts ← result.mapM Tensor.unstack
  let count := ((parts.map List.length).max?).getD 0
  let rows := (List.range count).map fun number =>
    problem.projection (parts.filterMap (·[number]?))
  pure (rows.mergeSort fun left right => !lexLess right left)

end TensorLogic.Problem
