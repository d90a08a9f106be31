/-
Module: TensorLogic.Proofs.Solver.Building
Purpose: What building its formula and searching for a model do to a solver, step by step and as a whole.
Main exports: Solver.Kept, Solver.Built, Solver.exists_built, Solver.Searches, Solver.searches_solve
-/
import TensorLogic.Proofs.Solver.Models
import TensorLogic.Proofs.Solver.Passage

namespace TensorLogic.Solver

/-- A clause without the constants that is not empty, or the one that says the false constant. -/
def Kept (numVars : Nat) (clause : Clause) : Prop :=
  clause = [-1] ∨ clause ≠ [] ∧ ∀ literal ∈ clause, 2 ≤ literal.natAbs ∧ literal.natAbs ≤ numVars

/-- A clause that is kept over some variables is kept over more of them. -/
theorem Kept.mono {less more : Nat} {clause : Clause} (kept : Kept less clause) (atMost : less ≤ more) :
    Kept more clause := by
  rcases kept with isBot | ⟨nonempty, bounded⟩
  · exact Or.inl isBot
  · exact Or.inr ⟨nonempty, fun literal inside =>
      ⟨(bounded literal inside).1, Nat.le_trans (bounded literal inside).2 atMost⟩⟩

/-- What is kept of a clause is free of the constants. -/
theorem kept_of_simplify? {numVars : Nat} {codes clause : Clause}
    (simplified : simplify? codes = some clause)
    (allocated : ∀ literal ∈ clause, IsLiteral numVars literal) : Kept numVars clause := by
  unfold simplify? at simplified
  split at simplified
  · cases simplified
  · rename_i noTop
    split at simplified
    · exact Or.inl (Option.some.inj simplified).symm
    · rename_i nonempty
      obtain rfl := Option.some.inj simplified
      refine Or.inr ⟨fun isEmpty => nonempty isEmpty, fun literal inside => ?_⟩
      obtain ⟨isCode, notBot⟩ := List.mem_filter.1 inside
      have notTop : literal ≠ 1 := by
        rintro rfl
        exact noTop (List.contains_iff_mem.2 isCode)
      have isLiteral := allocated literal inside
      have differs : literal ≠ -1 := bne_iff_ne.1 notBot
      have nonzero := isLiteral.1
      exact ⟨by omega, isLiteral.2⟩

/-! ## Building -/

/-- A formula was built: variables were allocated and more clauses added, each of which was counted.  The
decision of the last search is lost exactly if there are more clauses. -/
structure Built (more : Formula) (before after : Solver) : Prop where
  owner_eq : after.owner = before.owner
  period_eq : after.period = before.period
  numVars_le : before.backend.numVars ≤ after.backend.numVars
  clauses_eq : after.backend.clauses.toList =
    before.backend.clauses.toList ++ more.map Clause.written
  kept : ∀ clause ∈ more, Kept after.backend.numVars clause
  totalVariables_eq : after.totalVariables + before.backend.numVars =
    before.totalVariables + after.backend.numVars
  totalClauses_eq : after.totalClauses = before.totalClauses + more.length
  decision_eq : after.backend.decision = if more = [] then before.backend.decision else none

theorem Built.refl (solver : Solver) : Built [] solver solver where
  owner_eq := rfl
  period_eq := rfl
  numVars_le := Nat.le_refl _
  clauses_eq := (List.append_nil _).symm
  kept := fun _ impossible => nomatch impossible
  totalVariables_eq := rfl
  totalClauses_eq := rfl
  decision_eq := rfl

/-- What is built in two goes is built in one, and the clauses of both go into the formula. -/
theorem Built.trans {more other : Formula} {first second third : Solver}
    (one : Built more first second) (two : Built other second third) :
    Built (more ++ other) first third where
  owner_eq := two.owner_eq.trans one.owner_eq
  period_eq := two.period_eq.trans one.period_eq
  numVars_le := Nat.le_trans one.numVars_le two.numVars_le
  clauses_eq := by rw [two.clauses_eq, one.clauses_eq, List.map_append, List.append_assoc]
  kept := by
    intro clause inside
    rcases List.mem_append.1 inside with earlier | later
    · exact (one.kept clause earlier).mono two.numVars_le
    · exact two.kept clause later
  totalVariables_eq := by
    have first := one.totalVariables_eq
    have second := two.totalVariables_eq
    omega
  totalClauses_eq := by
    rw [two.totalClauses_eq, one.totalClauses_eq, List.length_append, Nat.add_assoc]
  decision_eq := by
    rw [two.decision_eq, one.decision_eq]
    cases other with
    | nil => rw [if_pos rfl, List.append_nil]
    | cons clause other => rw [if_neg (by simp), if_neg (by simp)]

/-- There are so many more clauses. -/
theorem Built.numClauses_eq {more : Formula} {before after : Solver} (built : Built more before after) :
    after.backend.numClauses = before.backend.numClauses + more.length := by
  have lengths := congrArg List.length built.clauses_eq
  rwa [List.length_append, List.length_map, Array.length_toList, Array.length_toList] at lengths

/-- Each step of a solver builds, either nothing or one clause more. -/
theorem Step.built {before after : Solver} (step : before.Step after) :
    ∃ more, Built more before after := by
  cases step with
  | allocate =>
      refine ⟨[], rfl, rfl, Nat.le_succ _, (List.append_nil _).symm, ?_, ?_, rfl, rfl⟩
      · exact fun _ impossible => nomatch impossible
      · change before.totalVariables + 1 + before.backend.numVars =
          before.totalVariables + (before.backend.numVars + 1)
        omega
  | @push _ codes clause simplified allocated =>
      refine ⟨[clause], rfl, rfl, Nat.le_refl _, ?_, ?_, rfl, rfl, rfl⟩
      · exact Array.toList_push
      · intro other inside
        obtain rfl := List.mem_singleton.1 inside
        exact kept_of_simplify? simplified allocated
  | note event => exact ⟨[], { Built.refl before with }⟩

/-- Whatever was built in any number of steps. -/
theorem exists_built {before after : Solver} (builds : building.Reaches before after) :
    ∃ more, Built more before after := by
  induction builds with
  | refl => exact ⟨[], Built.refl before⟩
  | tail _ step hypothesis =>
      obtain ⟨more, built⟩ := hypothesis
      obtain ⟨other, last⟩ := step.built
      exact ⟨more ++ other, built.trans last⟩

/-! ## Searching -/

/-- A search was made, which changes neither the formula nor the totals of variables and clauses. -/
structure Searches (before after : Solver) : Prop where
  owner_eq : after.owner = before.owner
  period_eq : after.period = before.period
  numVars_eq : after.backend.numVars = before.backend.numVars
  clauses_eq : after.backend.clauses = before.backend.clauses
  totalVariables_eq : after.totalVariables = before.totalVariables
  totalClauses_eq : after.totalClauses = before.totalClauses

/-- A search that comes to no decision fails. -/
theorem runOn_solve_of_undecided {solver : Solver}
    (undecided : solver.backend.engine.decide solver.backend.rounds solver.backend.numVars
      solver.backend.formula = .undecided) :
    ∃ journal, solve.runOn solver = (.error .undecided, { solver with
      backend := { solver.backend with
        rounds := solver.backend.rounds + 1
        decision := none }
      totalSolves := solver.totalSolves + 1
      journal }) := by
  have ran := Backend.runOn_solve solver.backend
  rw [undecided] at ran
  obtain ⟨asked, isAsked⟩ : ∃ asked, asked = HasJournal.note
      (.solving solver.backend.numVars solver.backend.numClauses)
      { solver with totalSolves := solver.totalSolves + 1 } := ⟨_, rfl⟩
  have sameBackend : asked.backend = solver.backend := by rw [isAsked]; rfl
  have ranSolver : (onBackend Backend.solve).runOn asked =
      (.error .undecided, { asked with
        backend := { solver.backend with
          rounds := solver.backend.rounds + 1
          decision := none } }) := by
    rw [runOn_onBackend, sameBackend, ran]
    rfl
  refine ⟨asked.journal, ?_⟩
  unfold solve
  rw [Act.runOn_bind_ok (Act.runOn_get _), Act.runOn_bind_ok (Act.runOn_set _ _),
    Act.runOn_bind_ok (Act.runOn_announce _ _), ← isAsked, Act.runOn_bind_error ranSolver, isAsked]
  rfl

/-- A search that finds a model keeps it, and no other search has one. -/
theorem searches_solve (solver : Solver) :
    solver.Searches (solve.runOn solver).2 ∧
      ((solve.runOn solver).1 = .ok true ∧ (∃ model,
          solver.backend.engine.decide solver.backend.rounds solver.backend.numVars
              solver.backend.formula = .satisfiable model ∧
            (solve.runOn solver).2.backend.decision = some (.model model)) ∨
        (solve.runOn solver).1 ≠ .ok true ∧
          ∀ model, (solve.runOn solver).2.backend.decision ≠ some (.model model)) := by
  cases decided : solver.backend.engine.decide solver.backend.rounds solver.backend.numVars
      solver.backend.formula with
  | satisfiable model =>
      rw [runOn_solve_of_satisfiable decided]
      exact ⟨⟨rfl, rfl, rfl, rfl, rfl, rfl⟩, Or.inl ⟨rfl, model, rfl, rfl⟩⟩
  | unsatisfiable =>
      rw [runOn_solve_of_unsatisfiable decided]
      refine ⟨⟨rfl, rfl, rfl, rfl, rfl, rfl⟩, Or.inr ⟨?_, ?_⟩⟩
      · rintro ⟨⟩
      · rintro _ ⟨⟩
  | undecided =>
      obtain ⟨journal, ran⟩ := runOn_solve_of_undecided decided
      rw [ran]
      refine ⟨⟨rfl, rfl, rfl, rfl, rfl, rfl⟩, Or.inr ⟨?_, ?_⟩⟩
      · rintro ⟨⟩
      · rintro _ ⟨⟩

end TensorLogic.Solver
