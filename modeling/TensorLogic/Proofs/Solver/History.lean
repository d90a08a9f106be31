/-
Module: TensorLogic.Proofs.Solver.History
Purpose: The calls that led a solver to its state, with the states in between.
Main exports: Solver.Moment, Solver.Ran, Solver.Ran.induct, Solver.ended, Solver.sinceClear,
  Solver.Ran.upholds_sinceClear
-/
import TensorLogic.Proofs.Solver.Building
import TensorLogic.Proofs.Solver.Reachable

namespace TensorLogic.Solver

/-- A call that was made, and the solver on which it was made. -/
structure Moment where
  call : Call
  before : Solver

/-- The solver that the call left, whether it failed or not. -/
def Moment.after [Platform] (moment : Moment) : Solver := (moment.call.run.runOn moment.before).2

/-- The solver with a number on a back-end after some calls, the last one first. -/
inductive Ran [Platform] (owner : Nat) (backend : Backend) : List Moment → Solver → Prop where
  | created : Ran owner backend [] (create owner backend)
  | called {history : List Moment} {solver : Solver} (ran : Ran owner backend history solver)
      (call : Call) : Ran owner backend (⟨call, solver⟩ :: history) (call.run.runOn solver).2

/-- Whether a call clears the solver. -/
def Call.isClear : Call → Bool
  | clear => true
  | _ => false

/-- Whether a call searches for a model. -/
def Call.isSolve : Call → Bool
  | solve => true
  | _ => false

/-- The solver at the ends of its earlier periods, each of which was ended by clearing it. -/
def ended (history : List Moment) : List Solver :=
  (history.filter fun moment => moment.call.isClear).map Moment.before

/-- The calls since the solver was last cleared. -/
def sinceClear (history : List Moment) : List Moment :=
  history.takeWhile fun moment => !moment.call.isClear

variable [Platform] {owner : Nat} {backend : Backend} {history : List Moment} {solver : Solver}

/-- A call clears the solver, searches for a model, or builds the formula. -/
theorem Call.cases (call : Call) :
    call = .clear ∨ call = .solve ∨
      call.isClear = false ∧ call.isSolve = false ∧ building.Keeps call.run := by
  by_cases isClear : call = .clear
  · exact Or.inl isClear
  · by_cases isSolve : call = .solve
    · exact Or.inr (Or.inl isSolve)
    · refine Or.inr (Or.inr ⟨?_, ?_, builds_call isClear isSolve⟩)
      · cases call <;> first | rfl | exact absurd rfl isClear
      · cases call <;> first | rfl | exact absurd rfl isSolve

theorem Call.state_solve (solver : Solver) :
    (Call.solve.run.runOn solver).2 = (Solver.solve.runOn solver).2 :=
  Act.state_discard Solver.solve solver

theorem Call.state_evaluate (names : Environment Lit) (site : Site) (expression : Expr)
    (solver : Solver) : ((Call.evaluate names site expression).run.runOn solver).2 =
      ((Solver.evaluate names site expression).runOn solver).2 :=
  Act.state_discard (Solver.evaluate names site expression) solver

namespace Ran

/-- What led to the solver before the last call. -/
theorem of_cons {moment : Moment} (ran : Ran owner backend (moment :: history) solver) :
    Ran owner backend history moment.before ∧ solver = moment.after := by
  cases ran with
  | called ran call => exact ⟨ran, rfl⟩

theorem reachable (ran : Ran owner backend history solver) : Reachable owner backend solver := by
  induction ran with
  | created => exact .created
  | called _ call hypothesis => exact .called call hypothesis

/-- The states in between are states that the solver can be in. -/
theorem reachable_before (ran : Ran owner backend history solver) :
    ∀ moment ∈ history, Reachable owner backend moment.before := by
  induction ran with
  | created => exact fun _ impossible => nomatch impossible
  | called ran call hypothesis => exact List.forall_mem_cons.2 ⟨ran.reachable, hypothesis⟩

/-- What holds of a new solver, and is kept by clearing, by searching and by building, holds after all
calls. -/
theorem induct (Holds : List Moment → Solver → Prop)
    (created : Holds [] (create owner backend))
    (cleared : ∀ {history solver}, Ran owner backend history solver → Holds history solver →
      Holds (⟨.clear, solver⟩ :: history) solver.cleared)
    (searched : ∀ {history solver}, Ran owner backend history solver → Holds history solver →
      Holds (⟨.solve, solver⟩ :: history) (solve.runOn solver).2)
    (built : ∀ {history solver} (call : Call) (more : Formula), call.isClear = false →
      call.isSolve = false → Built more solver (call.run.runOn solver).2 →
        Ran owner backend history solver → Holds history solver →
          Holds (⟨call, solver⟩ :: history) (call.run.runOn solver).2)
    (ran : Ran owner backend history solver) : Holds history solver := by
  induction ran with
  | created => exact created
  | @called history solver ran call hypothesis =>
      rcases call.cases with rfl | rfl | ⟨notClear, notSolve, builds⟩
      · exact cleared ran hypothesis
      · rw [Call.state_solve]
        exact searched ran hypothesis
      · obtain ⟨more, isBuilt⟩ := exists_built (builds solver)
        exact built call more notClear notSolve isBuilt ran hypothesis

/-- What was built since the solver was last cleared is still there. -/
theorem upholds_sinceClear (ran : Ran owner backend history solver) :
    ∀ moment ∈ sinceClear history, moment.after.Upholds solver := by
  induction ran with
  | created => exact fun _ impossible => nomatch impossible
  | @called history solver ran call hypothesis =>
      unfold sinceClear
      cases isClear : call.isClear with
      | true =>
          rw [List.takeWhile_cons_of_neg (by simp [isClear])]
          exact fun _ impossible => nomatch impossible
      | false =>
          rw [List.takeWhile_cons_of_pos (by simp [isClear])]
          have notClear : call ≠ .clear := by
            rintro rfl
            cases isClear
          refine List.forall_mem_cons.2 ⟨upholding.reaches_refl _, fun moment inside => ?_⟩
          exact upholding.reaches_trans (hypothesis moment inside) (keeps_call notClear solver)

end Ran

end TensorLogic.Solver
