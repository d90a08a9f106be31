/-
Module: TensorLogic.Proofs.Sat.Loading
Purpose: A formula that is asked about replaces what a back-end held, and is decided as it is.
Main exports: Backend.loaded, Backend.runOn_load, Backend.runOn_isSatisfiable, Backend.Answers,
  Backend.isSatisfiable_answers
-/
import TensorLogic.Proofs.Sat.Backend

namespace TensorLogic.Backend

/-! ## Searches -/

/-- A search with an engine that is sound and complete finds out whether the clauses can be satisfied. -/
theorem solve_decides {backend : Backend} (decides : backend.engine.Decides)
    (isOver : backend.formula.IsOver backend.numVars) :
    ∃ answer after, solve.runOn backend = (.ok answer, after) ∧
      (answer = true ↔ ∃ assignment : Assignment, backend.formula.eval assignment = true) := by
  have solves := runOn_solve backend
  cases decided : backend.engine.decide backend.rounds backend.numVars backend.formula with
  | satisfiable model =>
      rw [decided] at solves
      exact ⟨true, _, solves, iff_of_true rfl ⟨model, decides.satisfiable isOver decided⟩⟩
  | unsatisfiable =>
      rw [decided] at solves
      refine ⟨false, _, solves, iff_of_false Bool.false_ne_true fun ⟨assignment, holds⟩ => ?_⟩
      rw [decides.unsatisfiable isOver decided assignment] at holds
      cases holds
  | undecided => exact absurd decided (decides.decided isOver)

/-- A search fails only where the engine comes to no verdict. -/
theorem undecided_of_solve {backend : Backend} {fault : Fault}
    (failed : (solve.runOn backend).1 = .error fault) : fault = .undecided := by
  rw [runOn_solve] at failed
  cases decided : backend.engine.decide backend.rounds backend.numVars backend.formula with
  | satisfiable =>
      rw [decided] at failed
      cases failed
  | unsatisfiable =>
      rw [decided] at failed
      cases failed
  | undecided =>
      rw [decided] at failed
      cases failed
      rfl

/-- A search leaves the variables and the clauses as they are. -/
theorem solve_keeps (backend : Backend) :
    (solve.runOn backend).2.numVars = backend.numVars ∧
      (solve.runOn backend).2.clauses = backend.clauses := by
  rw [runOn_solve]
  cases backend.engine.decide backend.rounds backend.numVars backend.formula <;> exact ⟨rfl, rfl⟩

/-! ## Loading -/

/-- The back-end with one formula instead of another. -/
def loaded (backend : Backend) (cnf : Cnf) : Backend :=
  { backend with numVars := cnf.numVars.value, clauses := cnf.clauses.toArray, decision := none }

theorem formula_loaded (backend : Backend) (cnf : Cnf) : (backend.loaded cnf).formula = cnf.formula := by
  rw [formula, loaded, Cnf.formula, List.toList_toArray]

/-- Clauses over the allocated variables are added one after the other. -/
theorem runOn_addClauses {clauses : List WrittenClause} {backend : Backend}
    (valid : ∀ clause ∈ clauses, ∀ literal ∈ clause, IsLiteral backend.numVars literal.value)
    (noDecision : backend.decision = none) :
    (clauses.forM addClause).runOn backend =
      (.ok (), { backend with clauses := backend.clauses ++ clauses.toArray }) := by
  induction clauses generalizing backend with
  | nil =>
      rw [List.forM, Act.runOn_pure, Array.append_empty]
  | cons clause clauses hypothesis =>
      have first := runOn_addClause (valid clause List.mem_cons_self)
      have rest := @hypothesis (backend.pushed clause)
        (fun other member => valid other (List.mem_cons_of_mem _ member)) rfl
      rw [List.forM, Act.runOn_bind_ok first, rest]
      have appended : backend.clauses.push clause ++ clauses.toArray =
          backend.clauses ++ (clause :: clauses).toArray := by simp
      rw [pushed, appended, ← noDecision]

/-- A formula over its variables is loaded, whatever the back-end held before. -/
theorem runOn_load {cnf : Cnf} (isOver : cnf.formula.IsOver cnf.numVars.value) (given : Backend) :
    (load cnf).runOn given = (.ok (), given.loaded cnf) := by
  have valid : ∀ clause ∈ cnf.clauses, ∀ literal ∈ clause,
      IsLiteral cnf.numVars.value literal.value := fun clause member literal inside =>
    isOver _ (List.mem_map_of_mem member) _ (List.mem_map_of_mem inside)
  unfold load reset
  rw [Act.runOn_bind_ok (Act.runOn_modify _ _), Act.runOn_bind_ok (Act.runOn_modify _ _),
    runOn_addClauses valid rfl]
  simp [loaded]

/-- To ask about a formula is to search with nothing but this formula. -/
theorem runOn_isSatisfiable {cnf : Cnf} (isOver : cnf.formula.IsOver cnf.numVars.value)
    (given : Backend) : (isSatisfiable cnf).runOn given = solve.runOn (given.loaded cnf) := by
  unfold isSatisfiable
  rw [Act.runOn_bind_ok (runOn_load isOver given)]

/-- What comes of asking a back-end about a formula.  It depends on the formula and the engine only. -/
structure Answers (cnf : Cnf) (given : Backend) : Prop where
  /-- The answer is whether the formula can be satisfied. -/
  decided : given.engine.Decides → ∃ answer, ((isSatisfiable cnf).runOn given).1 = .ok answer ∧
    (answer = true ↔ ∃ assignment : Assignment, cnf.formula.eval assignment = true)
  /-- Whatever the engine is, no clause is refused for a value; the engine may come to no verdict. -/
  undecided : ∀ fault, ((isSatisfiable cnf).runOn given).1 = .error fault →
    fault = .undecided ∧ fault.category ≠ .value
  /-- The back-end holds the variables and clauses of the formula. -/
  numVars_eq : ((isSatisfiable cnf).runOn given).2.numVars = cnf.numVars.value
  clauses_eq : ((isSatisfiable cnf).runOn given).2.clauses.toList = cnf.clauses

/-- A formula over its variables can be asked about in every state of every back-end. -/
theorem isSatisfiable_answers {cnf : Cnf} (isOver : cnf.formula.IsOver cnf.numVars.value)
    (given : Backend) : Answers cnf given := by
  have asked := runOn_isSatisfiable isOver given
  obtain ⟨sameNumber, sameClauses⟩ := solve_keeps (given.loaded cnf)
  refine ⟨fun decides => ?_, fun fault failed => ?_, ?_, ?_⟩
  · have loadedOver : (given.loaded cnf).formula.IsOver (given.loaded cnf).numVars := by
      rw [formula_loaded]
      exact isOver
    have sameEngine : (given.loaded cnf).engine.Decides := decides
    obtain ⟨answer, after, solves, means⟩ := solve_decides sameEngine loadedOver
    rw [formula_loaded] at means
    exact ⟨answer, by rw [asked, solves], means⟩
  · rw [asked] at failed
    obtain rfl := undecided_of_solve failed
    exact ⟨rfl, by decide⟩
  · rw [asked, sameNumber]
    rfl
  · rw [asked, sameClauses]
    exact List.toList_toArray

end TensorLogic.Backend
