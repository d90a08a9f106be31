/-
Module: TensorLogic.Proofs.Problem.Agreement
Purpose: Solving a problem agrees with checking its predicate, where the predicate has a value and where
  it fails.
Main exports: Problem.Fails, Problem.wellPosed_or_fails, Problem.failsOn_of_fails,
  Problem.solving_agrees_with_checking
-/
import TensorLogic.Proofs.Problem.Enumeration

namespace TensorLogic.Problem

/-- The predicate fails in the same way on all tensors of the right shapes. -/
def Fails [Platform] (problem : Problem) (fault : Fault) : Prop :=
  ∀ solution, problem.Fits solution → problem.verdict solution = .error fault

section

variable [Platform] {problem : Problem} {unknowns : List (Tensor Lit)} {solver : Solver} {fault : Fault}

/-! ## Failing predicates -/

/-- A check has a value where the predicate has one, and fails where it fails. -/
theorem verdict_eq {solution : Solution} (fits : problem.Fits solution) :
    problem.verdict solution = ((problem.compute Truth.algebra (onTruth solution)).runOn
      (#[] : Journal)).1.map Value.truth := by
  unfold verdict
  rw [check_eq fits, Act.runOn_bind]
  generalize (problem.compute Truth.algebra (onTruth solution)).runOn (#[] : Journal) = ran
  obtain ⟨outcome, journal⟩ := ran
  cases outcome <;> rfl

/-- The predicate fails over a solver exactly where it fails on the tensors that any assignment gives,
with the same fault. -/
theorem sameOutcome_compute (typed : problem.predicate.HasKind problem.context .elem)
    (hosts : problem.Hosts unknowns solver) (assignment : Assignment) :
    SameOutcome (fun _ _ => True)
      ((problem.compute (Solver.algebra solver.owner)
        (unknowns.map fun tensor => tensor.map Value.elem)).runOn solver).1
      (problem.verdict (readUnder assignment unknowns)) := by
  obtain ⟨_, _, same⟩ := Solver.agrees_on_truth (γ := Empty) hosts.wellFormed
    (provides_unknowns hosts) typed [] assignment (#[] : Journal)
  rw [read_unknowns] at same
  rw [verdict_eq (hosts.fits assignment)]
  exact same.map_right fun _ _ _ => trivial

/-- Whether the predicate has a value does not depend on the tensors, but only on their shapes. -/
theorem wellPosed_or_fails (typed : problem.predicate.HasKind problem.context .elem)
    (listable : problem.Listable) : problem.WellPosed ∨ ∃ fault, problem.Fails fault := by
  obtain ⟨unknowns, _, hosts⟩ := hosts_allocated listable (Solver.create 0 { engine := .least })
  have same := sameOutcome_compute typed hosts
  generalize Prod.fst (Act.runOn _ _) = outcome at same
  cases outcome with
  | ok value =>
      refine Or.inl ⟨typed, fun solution fits => ?_⟩
      obtain ⟨assignment, _, rfl⟩ := hosts.exists_readUnder_eq fits
      have outcomes := same assignment
      generalize problem.verdict _ = verdict at outcomes ⊢
      cases outcomes with
      | ok _ => exact ⟨_, rfl⟩
  | error fault =>
      refine Or.inr ⟨fault, fun solution fits => ?_⟩
      obtain ⟨assignment, _, rfl⟩ := hosts.exists_readUnder_eq fits
      have outcomes := same assignment
      generalize problem.verdict _ = verdict at outcomes ⊢
      cases outcomes with
      | error _ => rfl

/-- A predicate that fails cannot be compiled: this is where each way to solve the problem ends, before
any search. -/
theorem failsOn_of_fails (typed : problem.predicate.HasKind problem.context .elem)
    (listable : problem.Listable) (fails : problem.Fails fault) (solver : Solver) :
    problem.FailsOn solver fault := by
  obtain ⟨unknowns, allocates, hosts⟩ := hosts_allocated listable solver
  have same := sameOutcome_compute typed hosts fun _ => false
  rw [fails _ (hosts.fits _)] at same
  obtain ⟨after, encodes⟩ : ∃ after, problem.encode.runOn solver = (.error fault, after) := by
    unfold encode
    rw [Act.runOn_bind_ok (Solver.runOn_clear solver), Act.runOn_bind_ok allocates,
      Act.runOn_bind_ok (Act.runOn_get _)]
    cases computes : (problem.compute
        (Solver.algebra (solver.cleared.allocated (Solver.totalSize problem.shapes)).owner)
        (unknowns.map fun tensor => tensor.map Value.elem)).runOn
          (solver.cleared.allocated (Solver.totalSize problem.shapes)) with
    | mk outcome after =>
        rw [computes] at same
        cases same
        exact ⟨after, Act.runOn_bind_error computes _⟩
  exact .of_encode encodes

/-! ## Solving -/

/-- While nothing has been found, every solution is open. -/
theorem open_nil_iff {solution : Solution} : problem.Open [] solution ↔ problem.Solves solution :=
  ⟨fun isOpen => isOpen.1, fun solves => ⟨solves, fun _ impossible => nomatch impossible⟩⟩

/-- With an engine that decides formulas, the question for a solution is answered, and affirmed exactly
where there is one. -/
theorem runOn_isSolvable (wellPosed : problem.WellPosed) (listable : problem.Listable)
    (decides : solver.backend.engine.Decides) :
    ∃ answer after, problem.isSolvable.runOn solver = (.ok answer, after) ∧
      (answer = true ↔ ∃ solution, problem.Solves solution) := by
  obtain ⟨unknowns, start, encodes, represents, unsearched⟩ := runOn_encode wellPosed listable solver
  rw [← unsearched.engine_eq] at decides
  unfold isSolvable
  rw [Act.runOn_bind_ok encodes]
  rcases decide_cases decides represents with ⟨decided, closed⟩ | ⟨model, decided, isModel⟩
  · refine ⟨false, _, Solver.runOn_solve_of_unsatisfiable decided, ?_, ?_⟩
    · exact fun impossible => nomatch impossible
    · rintro ⟨solution, solves⟩
      exact absurd (open_nil_iff.2 solves) (closed solution)
  · refine ⟨true, _, Solver.runOn_solve_of_satisfiable decided, fun _ => ?_, fun _ => rfl⟩
    exact ⟨_, (represents.sound model isModel).1⟩

/-- There is one solution to find, if there is any, and the one that is found solves the problem. -/
theorem runOn_solveOne_iff (wellPosed : problem.WellPosed) (listable : problem.Listable)
    (decides : solver.backend.engine.Decides) :
    ∃ answer after, problem.solveOne.runOn solver = (.ok answer, after) ∧
      (answer = none ↔ ¬∃ solution, problem.Solves solution) ∧
      ∀ solution, answer = some solution → problem.Solves solution := by
  obtain ⟨answer, after, ran, enumerated, unsolvable⟩ :=
    runOn_solveOne (fun _ _ => True) wellPosed listable decides fun _ _ => trivial
  have solves : ∀ solution, answer = some solution → problem.Solves solution := by
    rintro solution rfl
    exact enumerated.solves solution List.mem_cons_self
  refine ⟨answer, after, ran, ⟨fun isNone => ?_, fun unsolved => ?_⟩, solves⟩
  · rintro ⟨solution, isSolution⟩
    exact unsolvable isNone solution (open_nil_iff.2 isSolution)
  · exact Option.eq_none_iff_forall_ne_some.2 fun solution isSome =>
      unsolved ⟨solution, solves solution isSome⟩

/-- Solving agrees with checking, over a solver in any state whose engine is sound and complete.  If the
predicate fails on some tensors of the right shapes, it fails on all of them in the same way, and so
does every way to solve the problem, already where the formula is built.  Otherwise all of them have
results, so that no solution that was read is refuted in any round: the problem is solvable exactly where
the predicate holds on some tensors, the one solution that is found, if there is any, passes the check,
and so do all solutions that are found.  If the coordinates of the tensors cannot be listed, there is
nothing to agree with: whatever checks say, no formula is built. -/
theorem solving_agrees_with_checking (typed : problem.predicate.HasKind problem.context .elem)
    (decides : solver.backend.engine.Decides) :
    (problem.Listable →
      (∀ solution fault, problem.Fits solution → problem.verdict solution = .error fault →
        problem.Fails fault ∧ problem.FailsOn solver fault) ∧
      ((∀ solution, problem.Fits solution → ∃ holds, problem.verdict solution = .ok holds) →
        (∃ answer after, problem.isSolvable.runOn solver = (.ok answer, after) ∧
          (answer = true ↔ ∃ solution, problem.Solves solution)) ∧
        (∃ answer after, problem.solveOne.runOn solver = (.ok answer, after) ∧
          (answer = none ↔ ¬∃ solution, problem.Solves solution) ∧
          ∀ solution, answer = some solution → problem.Solves solution) ∧
        ∀ limit, ∃ result solutions after, (problem.solveAll limit).runOn solver = (.ok result, after) ∧
          problem.Unstacks result solutions ∧
          ∀ solution ∈ solutions, problem.Solves solution)) ∧
    (¬problem.Listable → ∃ fault, (fault.category = .overflow ∨ fault.category = .memory) ∧
      problem.FailsOn solver fault) := by
  refine ⟨fun listable => ⟨fun solution fault fits isFault => ?_, fun evaluates => ?_⟩,
    fun unlistable => exists_failsOn unlistable solver⟩
  · obtain ⟨other, fails⟩ := (wellPosed_or_fails typed listable).resolve_left fun wellPosed => by
      obtain ⟨holds, isHolds⟩ := wellPosed.evaluates solution fits
      rw [isFault] at isHolds
      cases isHolds
    have sameFault := fails solution fits
    rw [isFault] at sameFault
    cases sameFault
    exact ⟨fails, failsOn_of_fails typed listable fails solver⟩
  · have wellPosed : problem.WellPosed := ⟨typed, evaluates⟩
    refine ⟨runOn_isSolvable wellPosed listable decides,
      runOn_solveOne_iff wellPosed listable decides, fun limit => ?_⟩
    obtain ⟨result, all, after, _, ran, unstacks, enumerated, _⟩ :=
      runOn_solveAll (fun _ _ => True) limit wellPosed listable decides fun _ _ => trivial
    exact ⟨result, all.reverse, after, ran, unstacks, fun solution inside =>
      enumerated.solves solution (List.mem_reverse.1 inside)⟩

end

attribute [local instance] Platform.usual in
/-- To ask for a truth value that is true has this one as its solution.  To ask whether the members of
nothing are equal fails. -/
theorem solving_agrees_with_checking_truth :
    let problem : Problem := { masks := [.scalar (.bool true)], predicate := .item (.ref "0") }
    let failing : Problem :=
      { masks := [.scalar (.bool true)], predicate := .aggregate .allEqual (.list []) }
    let solver := Solver.create 0 { engine := .least }
    problem.predicate.HasKind problem.context .elem ∧
      failing.predicate.HasKind failing.context .elem ∧ solver.backend.engine.Decides ∧
      problem.Listable ∧ failing.Listable ∧
      (∃ after, problem.isSolvable.runOn solver = (.ok true, after)) ∧
      (∃ after, problem.solveOne.runOn solver = (.ok (some [.scalar true]), after)) ∧
      failing.Fails .emptyEquality ∧ failing.FailsOn solver .emptyEquality := by
  intro problem failing solver
  have typed : problem.predicate.HasKind problem.context .elem := .item (.ref rfl)
  have typedFailing : failing.predicate.HasKind failing.context .elem :=
    .aggregate .allEqual (.list .elem) (.list fun _ impossible => nomatch impossible)
  have decides : solver.backend.engine.Decides := Engine.decides_least
  have listable : problem.Listable := by
    unfold Listable
    decide
  have verdicts : ∀ value, problem.verdict [.scalar value] = .ok value := by
    intro value
    cases value <;> rfl
  have evaluates : ∀ solution, problem.Fits solution →
      ∃ holds, problem.verdict solution = .ok holds := by
    intro solution fits
    obtain ⟨value, rfl⟩ := fits.eq_scalar rfl
    exact ⟨value, verdicts value⟩
  have only : ∀ solution, problem.Solves solution → solution = [.scalar true] := by
    rintro solution ⟨fits, holds⟩
    obtain ⟨value, rfl⟩ := fits.eq_scalar rfl
    rw [verdicts] at holds
    cases holds
    rfl
  have solvable : ∃ solution, problem.Solves solution := ⟨[.scalar true], rfl, rfl⟩
  obtain ⟨⟨isSolvable, ended, ran, agrees⟩, ⟨answer, after, found, unsolved, solves⟩, _⟩ :=
    ((solving_agrees_with_checking typed decides).1 listable).2 evaluates
  -- The shapes of both problems are the same.
  obtain ⟨fails, failsOn⟩ := ((solving_agrees_with_checking typedFailing decides).1 listable).1
    [.scalar true] .emptyEquality rfl rfl
  refine ⟨typed, typedFailing, decides, listable, listable, ⟨ended, agrees.2 solvable ▸ ran⟩,
    ⟨after, ?_⟩, fails, failsOn⟩
  cases answer with
  | none => exact absurd solvable (unsolved.1 rfl)
  | some solution => rwa [only solution (solves solution rfl)] at found

attribute [local instance] Platform.usual in
/-- There are tensors that pass the check, and it is not said that the problem is solvable. -/
theorem isSolvable_boundless :
    let solver := Solver.create 0 { engine := .least }
    boundless.predicate.HasKind boundless.context .elem ∧ solver.backend.engine.Decides ∧
      (∀ solution, boundless.Fits solution → boundless.verdict solution = .ok true) ∧
      (∃ solution, boundless.Solves solution) ∧
      (boundless.isSolvable.runOn solver).1 = .error .hugeAxis :=
  ⟨boundless_wellPosed.typed, Engine.decides_least, fun _ fits => (boundless_solves fits).2,
    exists_boundless_solves, (boundless_failsOn _).isSolvable_eq⟩

end TensorLogic.Problem
