/-
Module: TensorLogic.Proofs.Problem.Enumeration
Purpose: The enumeration of solutions finds each combination of values of the selected cells once.
Main exports: Problem.Enumerated, Problem.Ends, Problem.runOn_enumerate, Problem.Unstacks,
  Problem.solveAll_exact
-/
import Mathlib.Data.Fintype.BigOperators
import Mathlib.Data.Set.Card
import Mathlib.Data.Set.Finite.List
import TensorLogic.Proofs.Problem.Blocking
import TensorLogic.Proofs.Sat.Engine
import TensorLogic.Proofs.Tensor.Stacked

namespace TensorLogic.Problem

variable (problem : Problem)

/-- Solutions that were found one after the other, the last one first: each was still open then, and
picked. -/
inductive Enumerated [Platform] (Picks : List Solution → Solution → Prop) : List Solution → Prop where
  | nil : Enumerated Picks []
  | cons {found : List Solution} {solution : Solution} (before : Enumerated Picks found)
      (isOpen : problem.Open found solution) (picked : Picks found solution) :
      Enumerated Picks (solution :: found)

/-- How an enumeration ends, and with how many searches: at the limit, or when no solution is left,
which takes one more search. -/
inductive Ends [Platform] (limit : Int) (all : List Solution) : Nat → Prop where
  | stopped (positive : 0 < limit) (reached : (all.length : Int) = limit) : Ends limit all all.length
  | exhausted (below : limit ≤ 0 ∨ (all.length : Int) < limit)
      (closed : ∀ solution, ¬problem.Open all solution) : Ends limit all (all.length + 1)

/-- What the models that an engine finds stand for is picked. -/
def PickedBy [Platform] (engine : Engine) (Picks : List Solution → Solution → Prop) : Prop :=
  ∀ {unknowns : List (Tensor Lit)} {found : List Solution} {solver : Solver} {round : Nat}
    {model : Assignment}, problem.Represents unknowns found solver →
      engine.decide round solver.backend.numVars solver.backend.formula = .satisfiable model →
        Picks found (readUnder model unknowns)

variable {problem} {Picks : List Solution → Solution → Prop} {unknowns : List (Tensor Lit)}
  {found : List Solution} {solver : Solver} {engine : Engine}

namespace Enumerated

variable [Platform]

/-- What was enumerated are solutions. -/
theorem solves (enumerated : problem.Enumerated Picks found) :
    ∀ solution ∈ found, problem.Solves solution := by
  induction enumerated with
  | nil => exact fun _ impossible => nomatch impossible
  | cons before isOpen _ hypothesis => exact List.forall_mem_cons.2 ⟨isOpen.1, hypothesis⟩

/-- No selected cells were enumerated twice. -/
theorem nodup (enumerated : problem.Enumerated Picks found) :
    (found.map problem.projection).Nodup := by
  induction enumerated with
  | nil => exact List.nodup_nil
  | cons before isOpen _ hypothesis =>
      rw [List.map_cons, List.nodup_cons]
      refine ⟨?_, hypothesis⟩
      intro member
      obtain ⟨other, inside, same⟩ := List.mem_map.1 member
      exact isOpen.2 other inside same

/-- No more solutions are found than there are values for the selected cells. -/
theorem length_le (enumerated : problem.Enumerated Picks found) :
    found.length ≤ 2 ^ problem.selectedCount := by
  have counted : ∀ row ∈ found.map problem.projection, row.length = problem.selectedCount := by
    intro row member
    obtain ⟨solution, inside, rfl⟩ := List.mem_map.1 member
    exact length_projection (enumerated.solves solution inside).1
  have distinct : ((found.map problem.projection).map fun row (place : Fin problem.selectedCount) =>
      row.getD place false).Nodup := by
    refine enumerated.nodup.map_on fun left isLeft right isRight same => ?_
    apply List.ext_getElem
    · rw [counted left isLeft, counted right isRight]
    · intro place insideLeft insideRight
      have bound : place < problem.selectedCount := counted left isLeft ▸ insideLeft
      have samePlace := congrFun same ⟨place, bound⟩
      simpa [insideLeft, insideRight] using samePlace
  have bounded := distinct.length_le_card
  simpa using bounded

end Enumerated

/-! ## The loop -/

/-- Announcing progress changes nothing but the journal. -/
theorem runOn_progress (count : Nat) (next : Unit → Act Solver (List Solution)) :
    ∃ journal, (do
      if isMilestone problem.interval count then announce (.progress count)
      next () : Act Solver (List Solution)).runOn solver = (next ()).runOn { solver with journal } := by
  by_cases milestone : isMilestone problem.interval count = true
  · rw [if_pos milestone]
    exact ⟨_, rfl⟩
  · rw [if_neg milestone]
    exact ⟨solver.journal, rfl⟩

/-- An engine that decides finds a model, or no solution is left. -/
theorem decide_cases [Platform] (decides : solver.backend.engine.Decides)
    (represents : problem.Represents unknowns found solver) :
    let verdict := solver.backend.engine.decide solver.backend.rounds solver.backend.numVars
      solver.backend.formula
    (verdict = .unsatisfiable ∧ ∀ solution, ¬problem.Open found solution) ∨
      ∃ model, verdict = .satisfiable model ∧ solver.backend.formula.eval model = true := by
  intro verdict
  have isOver := represents.wellFormed.isOver
  cases decided : verdict with
  | undecided => exact absurd decided (decides.decided isOver)
  | unsatisfiable =>
      refine Or.inl ⟨rfl, fun solution isOpen => ?_⟩
      obtain ⟨model, isModel, _⟩ := represents.complete solution isOpen
      have isFalse := decides.unsatisfiable isOver decided model
      rw [isModel] at isFalse
      cases isFalse
  | satisfiable model => exact Or.inr ⟨model, rfl, decides.satisfiable isOver decided⟩

/-- A solution is read from the model that a search finds. -/
theorem runOn_found [Platform] (wellPosed : problem.WellPosed) {model : Assignment}
    (represents : problem.Represents unknowns found solver)
    (isModel : solver.backend.formula.eval model = true)
    (decided : solver.backend.engine.decide solver.backend.rounds solver.backend.numVars
      solver.backend.formula = .satisfiable model) :
    Solver.solve.runOn solver = (.ok true, solver.searched (.model model)) ∧
      ∃ read, (problem.readSolution unknowns).runOn (solver.searched (.model model)) =
          (.ok (readUnder model unknowns), read) ∧
        problem.Represents unknowns found read ∧ read.backend.engine = solver.backend.engine ∧
        read.totalSolves = solver.totalSolves + 1 := by
  have searched : problem.Represents unknowns found (solver.searched (.model model)) :=
    represents.of_same rfl rfl rfl rfl
  obtain ⟨journal, reads⟩ := runOn_readSolution wellPosed searched.toHosts rfl
    (represents.sound model isModel).1
  have solved := Solver.runOn_solve_of_satisfiable decided
  exact ⟨solved, _, reads, searched.of_same rfl rfl rfl rfl, rfl, rfl⟩

/-- A round with a model reads the solution that it gives.  It is the last one if the limit is
reached, and excluded otherwise. -/
theorem runOn_round [Platform] (limit : Int) (wellPosed : problem.WellPosed) {model : Assignment}
    (represents : problem.Represents unknowns found solver)
    (isModel : solver.backend.formula.eval model = true)
    (decided : solver.backend.engine.decide solver.backend.rounds solver.backend.numVars
      solver.backend.formula = .satisfiable model) (rounds : Nat) :
    ∃ after, problem.Represents unknowns found after ∧
      after.backend.engine = solver.backend.engine ∧ after.totalSolves = solver.totalSolves + 1 ∧
      (problem.enumerate limit unknowns found (rounds + 1)).runOn solver = (do
        if 0 < limit ∧ limit ≤ (found.length + 1 : Nat) then
          announce (.stopped (found.length + 1))
          pure (readUnder model unknowns :: found)
        else
          Solver.addClause (differing (problem.projection unknowns)
            (problem.projection (readUnder model unknowns)))
          problem.enumerate limit unknowns (readUnder model unknowns :: found) rounds :
          Act Solver (List Solution)).runOn after := by
  obtain ⟨searches, read, reads, readRepresents, sameEngine, counted⟩ :=
    runOn_found wellPosed represents isModel decided
  have blocks := runOn_blocking readRepresents.toHosts (readUnder model unknowns)
  obtain ⟨later, progresses⟩ := @runOn_progress problem read (found.length + 1) (fun _ => do
    if 0 < limit ∧ limit ≤ (found.length + 1 : Nat) then
      announce (.stopped (found.length + 1))
      pure (readUnder model unknowns :: found)
    else
      Solver.addClause (differing (problem.projection unknowns)
        (problem.projection (readUnder model unknowns)))
      problem.enumerate limit unknowns (readUnder model unknowns :: found) rounds)
  refine ⟨{ read with journal := later }, readRepresents.of_same rfl rfl rfl rfl, sameEngine,
    counted, ?_⟩
  rw [← progresses, enumerate, Act.runOn_bind_ok searches, if_pos rfl, Act.runOn_bind_ok reads,
    Act.runOn_bind_ok blocks]

/-- With an engine that decides, the enumeration ends, whichever models the engine picks.  The number of
rounds is bounded by the number of values for the selected cells, each of which is found once. -/
theorem runOn_enumerate [Platform] {limit : Int} (wellPosed : problem.WellPosed) (decides : engine.Decides)
    (picked : problem.PickedBy engine Picks)
    (represents : problem.Represents unknowns found solver)
    (isEngine : solver.backend.engine = engine) (enumerated : problem.Enumerated Picks found)
    {rounds : Nat} (enough : problem.maxRounds ≤ found.length + rounds)
    (below : limit ≤ 0 ∨ (found.length : Int) < limit) :
    ∃ all after searches, (problem.enumerate limit unknowns found rounds).runOn solver =
        (.ok all, after) ∧
      problem.Enumerated Picks all ∧ problem.Ends limit all searches ∧
      after.totalSolves + found.length = solver.totalSolves + searches := by
  induction rounds generalizing found solver with
  | zero =>
      have bounded := enumerated.length_le
      unfold maxRounds at enough
      change 2 ^ problem.selectedCount + 1 ≤ _ at enough
      omega
  | succ rounds hypothesis =>
      subst isEngine
      rcases decide_cases decides represents with ⟨decided, closed⟩ | ⟨model, decided, isModel⟩
      · refine ⟨found, solver.searched .unsatisfiable, found.length + 1, ?_, enumerated,
          .exhausted below closed, ?_⟩
        · rw [enumerate, Act.runOn_bind_ok (Solver.runOn_solve_of_unsatisfiable decided)]
          rfl
        · change solver.totalSolves + 1 + found.length = _
          omega
      · have isOpen := represents.sound model isModel
        have extended : problem.Enumerated Picks (readUnder model unknowns :: found) :=
          .cons enumerated isOpen (picked represents decided)
        obtain ⟨read, readRepresents, sameEngine, counted, ran⟩ :=
          runOn_round limit wellPosed represents isModel decided rounds
        rw [ran]
        by_cases reached : 0 < limit ∧ limit ≤ (found.length + 1 : Nat)
        · refine ⟨readUnder model unknowns :: found,
            HasJournal.note (.stopped (found.length + 1)) read, found.length + 1, ?_, extended, ?_, ?_⟩
          · rw [if_pos reached, Act.runOn_bind_ok (Act.runOn_announce _ _)]
            rfl
          · refine .stopped reached.1 ?_
            rw [List.length_cons]
            omega
          · change read.totalSolves + found.length = _
            omega
        · rw [if_neg reached]
          obtain ⟨excluded, adds, excludes, same⟩ := runOn_excluding readRepresents isOpen.1.1
          have stillEngine : excluded.backend.engine = solver.backend.engine :=
            same.engine_eq.trans sameEngine
          obtain ⟨all, after, searches, ranRest, enumeratedAll, ends, total⟩ :=
            hypothesis excludes stillEngine extended (by rw [List.length_cons]; omega)
              (by rw [List.length_cons]; omega)
          refine ⟨all, after, searches, ?_, enumeratedAll, ends, ?_⟩
          · rw [Act.runOn_bind_ok adds, ranRest]
          · have counts := same.totalSolves_eq
            rw [List.length_cons] at total
            omega

/-! ## The result -/

/-- The tensors of a result are solutions, stacked for each mask along a new last axis: the parts of the
tensor for a mask are what the solutions have there, in the same order for all masks. -/
structure Unstacks (problem : Problem) (result : List (Tensor Bool)) (solutions : List Solution) :
    Prop where
  shapes_eq : result.map Tensor.shape =
    problem.shapes.map fun shape => shape ++ [.number solutions.length]
  unstack_eq : ∀ (number : Nat) (tensor : Tensor Bool), result[number]? = some tensor →
    ∃ parts, tensor.unstack = .ok parts ∧ parts.map some = solutions.map (·[number]?)

/-- What solutions have for one of the masks. -/
theorem column {solutions : List Solution} (fits : ∀ solution ∈ solutions, problem.Fits solution)
    {number : Nat} {mask : Tensor Datum} (isMask : problem.masks[number]? = some mask) :
    (solutions.filterMap (·[number]?)).map some = solutions.map (·[number]?) ∧
      ∀ tensor ∈ solutions.filterMap (·[number]?), tensor.shape = mask.shape := by
  have part : ∀ solution ∈ solutions, ∃ tensor : Tensor Bool,
      solution[number]? = some tensor ∧ tensor.shape = mask.shape := by
    intro solution inside
    have there := congrArg (·[number]?) (fits solution inside)
    simp only [shapes, List.getElem?_map, isMask, Option.map_some] at there
    exact Option.map_eq_some_iff.1 there
  constructor
  · clear fits
    induction solutions with
    | nil => rfl
    | cons solution solutions hypothesis =>
        obtain ⟨tensor, isPart, _⟩ := part solution List.mem_cons_self
        have rest := hypothesis fun other inside => part other (List.mem_cons_of_mem _ inside)
        rw [List.map_cons, List.filterMap_cons]
        simp only [isPart, List.map_cons, rest]
  · intro tensor member
    obtain ⟨solution, inside, isPart⟩ := List.mem_filterMap.1 member
    obtain ⟨other, isOther, sameShape⟩ := part solution inside
    rw [isPart] at isOther
    cases isOther
    exact sameShape

/-- Solutions that fit can be stacked, and unstack into themselves. -/
theorem stackSolutions_eq {solutions : List Solution}
    (fits : ∀ solution ∈ solutions, problem.Fits solution) :
    ∃ result, problem.stackSolutions solutions = .ok result ∧ problem.Unstacks result solutions := by
  have each : ∀ member ∈ problem.masks.zipIdx, ∃ tensor : Tensor Bool,
      Tensor.stack (solutions.filterMap (·[member.2]?)) (some (member.1.shape.map Count.toWhole)) =
        .ok tensor ∧ tensor.shape = member.1.shape ++ [.number solutions.length] ∧
      ∃ parts, tensor.unstack = .ok parts ∧ parts.map some = solutions.map (·[member.2]?) := by
    rintro ⟨mask, number⟩ inside
    obtain ⟨isColumn, sameShape⟩ := column fits (List.mem_zipIdx_iff_getElem?.1 inside)
    have agree : ∀ tensor ∈ solutions.filterMap (·[number]?),
        Shape.Agree tensor.shape mask.shape := fun tensor member =>
      congrArg Shape.values (sameShape tensor member)
    refine ⟨_, Tensor.stack_of_agree (Shape.ofWholes_toWhole mask.shape) agree, ?_, _,
      Tensor.unstack_stackAll sameShape agree, isColumn⟩
    have counted := congrArg List.length isColumn
    rw [List.length_map, List.length_map] at counted
    change mask.shape ++ [.number (solutions.filterMap (·[number]?)).length] = _
    rw [counted]
  obtain ⟨result, isResult, related⟩ := exists_mapM_ok each
  obtain ⟨sameLength, atPlace⟩ := List.forall₂_iff_get.1 related
  refine ⟨result, isResult, ?_, ?_⟩
  · apply List.ext_getElem
    · rw [List.length_map, List.length_map, shapes, List.length_map, ← sameLength, List.length_zipIdx]
    · intro place inside bound
      rw [List.length_map] at inside
      have here := (atPlace place (sameLength ▸ inside) inside).1
      simpa [shapes] using here
  · intro number tensor isTensor
    obtain ⟨bound, rfl⟩ := List.getElem?_eq_some_iff.1 isTensor
    have here := (atPlace number (sameLength ▸ bound) bound).2
    simpa using here

/-- The enumeration starts from the formula for the problem, and its solutions are stacked. -/
theorem runOn_solveAll [Platform] (Picks : List Solution → Solution → Prop) (limit : Int)
    (wellPosed : problem.WellPosed) (listable : problem.Listable)
    (decides : solver.backend.engine.Decides)
    (picked : problem.PickedBy solver.backend.engine Picks) :
    ∃ result all after searches, (problem.solveAll limit).runOn solver = (.ok result, after) ∧
      problem.Unstacks result all.reverse ∧ problem.Enumerated Picks all ∧
      problem.Ends limit all searches ∧ after.totalSolves = solver.totalSolves + searches := by
  obtain ⟨unknowns, start, encodes, represents, unsearched⟩ := runOn_encode wellPosed listable solver
  have enough : problem.maxRounds ≤ ([] : List Solution).length + problem.maxRounds :=
    Nat.le_add_left _ _
  have below : limit ≤ 0 ∨ (([] : List Solution).length : Int) < limit := le_or_gt limit 0
  obtain ⟨all, last, searches, enumerates, enumerated, ends, total⟩ :=
    runOn_enumerate wellPosed decides picked represents unsearched.engine_eq .nil enough below
  have fits : ∀ solution ∈ all.reverse, problem.Fits solution := fun solution inside =>
    (enumerated.solves solution (List.mem_reverse.1 inside)).1
  obtain ⟨result, stacked, unstacks⟩ := stackSolutions_eq fits
  refine ⟨result, all, HasJournal.note (.enumerated all.length) last, searches, ?_, unstacks,
    enumerated, ends, ?_⟩
  · unfold solveAll
    rw [Act.runOn_bind_ok encodes, Act.runOn_bind_ok enumerates,
      Act.runOn_bind_ok (Act.runOn_announce _ _), stacked]
    rfl
  · rw [← unsearched.totalSolves_eq]
    exact total

/-- To find one solution, the search is made once, and the solution need not be excluded. -/
theorem runOn_solveOne [Platform] (Picks : List Solution → Solution → Prop) (wellPosed : problem.WellPosed)
    (listable : problem.Listable) (decides : solver.backend.engine.Decides)
    (picked : problem.PickedBy solver.backend.engine Picks) :
    ∃ answer after, problem.solveOne.runOn solver = (.ok answer, after) ∧
      problem.Enumerated Picks answer.toList ∧
      (answer = none → ∀ solution, ¬problem.Open [] solution) := by
  obtain ⟨unknowns, start, encodes, represents, unsearched⟩ := runOn_encode wellPosed listable solver
  rw [← unsearched.engine_eq] at decides picked
  unfold solveOne
  rw [Act.runOn_bind_ok encodes]
  rcases decide_cases decides represents with ⟨decided, closed⟩ | ⟨model, decided, isModel⟩
  · refine ⟨none, start.searched .unsatisfiable, ?_, .nil, fun _ => closed⟩
    rw [Act.runOn_bind_ok (Solver.runOn_solve_of_unsatisfiable decided)]
    rfl
  · obtain ⟨searches, read, reads, _⟩ := runOn_found wellPosed represents isModel decided
    have enumerated : problem.Enumerated Picks [readUnder model unknowns] :=
      .cons .nil (represents.sound model isModel) (picked represents decided)
    refine ⟨some (readUnder model unknowns), read, ?_, enumerated, fun impossible => ?_⟩
    · rw [Act.runOn_bind_ok searches, if_pos rfl, Act.runOn_bind_ok reads]
      rfl
    · cases impossible

/-! ## How many solutions there are -/

variable (problem) in
/-- The combinations of values of the selected cells that solutions have. -/
def solvedRows [Platform] : Set (List Bool) := problem.projection '' {solution | problem.Solves solution}

/-- There are only finitely many rows of selected cells, since they are truth values in a fixed number. -/
theorem finite_solvedRows [Platform] (problem : Problem) : problem.solvedRows.Finite := by
  apply (List.finite_length_eq Bool problem.selectedCount).subset
  rintro row ⟨solution, solves, rfl⟩
  exact length_projection solves.1

/-- Solutions that were enumerated have different rows, so there are at most as many as rows. -/
theorem Enumerated.length_le_ncard [Platform] (enumerated : problem.Enumerated Picks found) :
    found.length ≤ problem.solvedRows.ncard := by
  have inside : ((found.map problem.projection).toFinset : Set (List Bool)) ⊆ problem.solvedRows := by
    intro row member
    rw [List.coe_toFinset] at member
    obtain ⟨solution, isFound, rfl⟩ := List.mem_map.1 member
    exact ⟨solution, enumerated.solves solution isFound, rfl⟩
  have counted := Set.ncard_le_ncard inside (finite_solvedRows problem)
  rwa [Set.ncard_coe_finset, List.toFinset_card_of_nodup enumerated.nodup, List.length_map] at counted

/-- Where no solution is left, there are as many as rows. -/
theorem Enumerated.length_eq_ncard [Platform] (enumerated : problem.Enumerated Picks found)
    (closed : ∀ solution, ¬problem.Open found solution) :
    found.length = problem.solvedRows.ncard := by
  apply Nat.le_antisymm enumerated.length_le_ncard
  have covered : problem.solvedRows ⊆ ((found.map problem.projection).toFinset : Set (List Bool)) := by
    rintro row ⟨solution, solves, rfl⟩
    rw [List.coe_toFinset]
    by_contra fresh
    apply closed solution
    refine ⟨solves, fun other isFound same => fresh ?_⟩
    exact List.mem_map.2 ⟨other, isFound, same⟩
  have counted := Set.ncard_le_ncard covered (Finset.finite_toSet _)
  rwa [Set.ncard_coe_finset, List.toFinset_card_of_nodup enumerated.nodup, List.length_map] at counted

/-- The end of an enumeration says how many solutions it comes to. -/
theorem Enumerated.length_of_ends [Platform] {limit : Int} {searches : Nat}
    (enumerated : problem.Enumerated Picks found) (ends : problem.Ends limit found searches) :
    found.length = (if limit ≤ 0 then problem.solvedRows.ncard
      else min limit.toNat problem.solvedRows.ncard) := by
  cases ends with
  | stopped positive reached =>
      have bounded := enumerated.length_le_ncard
      rw [if_neg (Int.not_le.2 positive)]
      omega
  | exhausted below closed =>
      have counted := enumerated.length_eq_ncard closed
      split
      · exact counted
      · omega

/-- It also says how many searches were made. -/
theorem Enumerated.searches_of_ends [Platform] {limit : Int} {searches : Nat}
    (enumerated : problem.Enumerated Picks found) (ends : problem.Ends limit found searches) :
    searches = (if 0 < limit ∧ limit ≤ problem.solvedRows.ncard then limit.toNat
      else problem.solvedRows.ncard + 1) := by
  cases ends with
  | stopped positive reached =>
      have bounded := enumerated.length_le_ncard
      rw [if_pos (by omega)]
      omega
  | exhausted below closed =>
      have counted := enumerated.length_eq_ncard closed
      rw [if_neg (by omega), counted]

/-- All solutions are found exactly once.  Over a solver in any state whose engine is sound and
complete, `solveAll` ends with a result that is stacked from solutions which differ in their selected
cells: from one for each combination of values of the selected cells that occurs, or from as many as
the limit says if it is positive and less.  One search is made for each solution, and one more unless
the limit is reached.  Only coordinates that cannot be listed keep it from a result. -/
theorem solveAll_exact [Platform] (wellPosed : problem.WellPosed) (decides : solver.backend.engine.Decides)
    (limit : Int) :
    (problem.Listable →
      ∃ result solutions after, (problem.solveAll limit).runOn solver = (.ok result, after) ∧
        problem.Unstacks result solutions ∧ (∀ solution ∈ solutions, problem.Solves solution) ∧
        (solutions.map problem.projection).Nodup ∧ problem.solvedRows.Finite ∧
        solutions.length = (if limit ≤ 0 then problem.solvedRows.ncard
          else min limit.toNat problem.solvedRows.ncard) ∧
        after.totalSolves = solver.totalSolves +
          (if 0 < limit ∧ limit ≤ problem.solvedRows.ncard then limit.toNat
          else problem.solvedRows.ncard + 1)) ∧
    (¬problem.Listable → ∃ fault, (fault.category = .overflow ∨ fault.category = .memory) ∧
      ((problem.solveAll limit).runOn solver).1 = .error fault) := by
  refine ⟨fun listable => ?_, fun unlistable => ?_⟩
  · obtain ⟨result, all, after, searches, ran, unstacks, enumerated, ends, total⟩ :=
      runOn_solveAll (fun _ _ => True) limit wellPosed listable decides fun _ _ => trivial
    refine ⟨result, all.reverse, after, ran, unstacks, ?_, ?_, finite_solvedRows problem, ?_, ?_⟩
    · exact fun solution inside => enumerated.solves solution (List.mem_reverse.1 inside)
    · rw [List.map_reverse, List.nodup_reverse]
      exact enumerated.nodup
    · rw [List.length_reverse]
      exact enumerated.length_of_ends ends
    · rw [total, enumerated.searches_of_ends ends]
  · obtain ⟨fault, wants, fails⟩ := exists_failsOn unlistable solver
    exact ⟨fault, wants, fails.solveAll_eq limit⟩

attribute [local instance] Platform.usual in
/-- To ask for a truth value that is true has one solution, which two searches find. -/
theorem solveAll_exact_truth :
    let problem : Problem := { masks := [.scalar (.bool true)], predicate := .item (.ref "0") }
    let solver := Solver.create 0 { engine := .least }
    problem.WellPosed ∧ problem.Listable ∧ solver.backend.engine.Decides ∧
      ∃ result solutions after, (problem.solveAll 0).runOn solver = (.ok result, after) ∧
        problem.Unstacks result solutions ∧ solutions.map problem.projection = [[true]] ∧
        after.totalSolves = 2 := by
  intro problem solver
  have verdicts : ∀ value, problem.verdict [.scalar value] = .ok value := by
    intro value
    cases value <;> rfl
  have wellPosed : problem.WellPosed := by
    refine ⟨.item (.ref rfl), fun solution fits => ?_⟩
    obtain ⟨value, rfl⟩ := fits.eq_scalar rfl
    exact ⟨value, verdicts value⟩
  have rows : problem.solvedRows = {[true]} := by
    ext row
    constructor
    · rintro ⟨solution, ⟨fits, holds⟩, rfl⟩
      obtain ⟨value, rfl⟩ := fits.eq_scalar rfl
      rw [verdicts] at holds
      cases holds
      rfl
    · rintro rfl
      exact ⟨[.scalar true], ⟨rfl, rfl⟩, rfl⟩
  have isEngine : solver.backend.engine.Decides := Engine.decides_least
  have listable : problem.Listable := by
    unfold Listable
    decide
  obtain ⟨result, solutions, after, ran, unstacks, solves, _, _, counted, total⟩ :=
    (solveAll_exact wellPosed isEngine 0).1 listable
  rw [rows, Set.ncard_singleton] at counted total
  refine ⟨wellPosed, listable, isEngine, result, solutions, after, ran, unstacks, ?_, total⟩
  obtain ⟨solution, rfl⟩ := List.length_eq_one_iff.1 counted
  have isRow : problem.projection solution ∈ problem.solvedRows :=
    ⟨solution, solves solution List.mem_cons_self, rfl⟩
  rw [rows] at isRow
  exact congrArg (fun row => [row]) isRow

attribute [local instance] Platform.usual in
/-- There are solutions, and they are not found. -/
theorem solveAll_boundless :
    let solver := Solver.create 0 { engine := .least }
    boundless.WellPosed ∧ solver.backend.engine.Decides ∧ (∃ solution, boundless.Solves solution) ∧
      ((boundless.solveAll 0).runOn solver).1 = .error .hugeAxis :=
  ⟨boundless_wellPosed, Engine.decides_least, exists_boundless_solves,
    (boundless_failsOn _).solveAll_eq 0⟩

end TensorLogic.Problem
