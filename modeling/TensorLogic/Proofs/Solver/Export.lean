/-
Module: TensorLogic.Proofs.Solver.Export
Purpose: The formula that a solver gives out is the one that it decides, also after it was written as a
  text and read again, and whichever back-end is asked about it.
Main exports: Solver.Numbered, Solver.Reachable.numbered, Solver.exported, Solver.Reachable.export_faithful
-/
import TensorLogic.Proofs.Cnf.RoundTrip
import TensorLogic.Proofs.Sat.Loading
import TensorLogic.Proofs.Solver.Invariant

namespace TensorLogic

/-! ## Clauses of numbers -/

/-- All literals of a back-end were given as numbers. -/
def Backend.Numbered (backend : Backend) : Prop :=
  ∀ clause ∈ backend.clauses.toList, ∀ literal ∈ clause, literal = .number literal.value

/-- Another clause is counted. -/
theorem Backend.Numbered.pushed {backend : Backend} (numbered : backend.Numbered) (clause : Clause) :
    (backend.pushed clause.written).Numbered := by
  intro other member literal inside
  rw [Backend.pushed, Array.toList_push] at member
  rcases List.mem_append.1 member with old | new
  · exact numbered other old literal inside
  · rw [List.mem_singleton.1 new] at inside
    obtain ⟨number, _, rfl⟩ := List.mem_map.1 inside
    rfl

namespace Solver

/-- What is added to a formula of numbers are numbers. -/
def numbering : Passage Solver where
  Reaches := fun before after => before.backend.Numbered → after.backend.Numbered
  reaches_refl := fun _ => id
  reaches_trans := fun one two => two ∘ one

theorem Step.keeps_numbers {before after : Solver} (step : before.Step after) :
    numbering.Reaches before after := by
  cases step with
  | allocate => exact id
  | @push _ _ clause => exact fun numbered => numbered.pushed clause
  | note => exact id

theorem numbering_search : numbering.Keeps (onBackend Backend.solve) := by
  intro solver numbered
  rw [runOn_onBackend]
  unfold Backend.Numbered
  rw [(Backend.solve_keeps solver.backend).2]
  exact numbered

theorem numbering_solve : numbering.Keeps solve := by
  have announces : ∀ event, numbering.Keeps (announce event : Act Solver Unit) := fun _ _ => id
  intro solver
  have counted : numbering.Reaches solver { solver with totalSolves := solver.totalSolves + 1 } := id
  have searches : numbering.Keeps (do
      announce (.solving solver.backend.numVars solver.backend.numClauses)
      let satisfiable ← onBackend Backend.solve
      announce (.solved satisfiable)
      pure satisfiable) :=
    (announces _).bind fun _ => numbering_search.bind fun satisfiable =>
      (announces _).bind fun _ => .pure satisfiable
  exact numbering.reaches_trans counted (searches _)

/-- A solver adds clauses of numbers only, whatever it is called with. -/
theorem Reachable.numbered [Platform] {owner : Nat} {origin : Backend} {solver : Solver}
    (reachable : Reachable owner origin solver) : solver.backend.Numbered := by
  have cleared : ∀ solver : Solver, solver.cleared.backend.Numbered := fun solver clause member =>
    fun literal inside => by
      obtain rfl := List.mem_singleton.1 member
      obtain rfl := List.mem_singleton.1 inside
      rfl
  induction reachable with
  | created => exact cleared _
  | @called solver call _ hypothesis =>
      by_cases isClear : call = .clear
      · subst isClear
        exact cleared solver
      · by_cases isSolve : call = .solve
        · subst isSolve
          exact numbering_solve.bind (fun _ => .pure ()) solver hypothesis
        · exact (builds_call isClear isSolve).of_building Step.keeps_numbers solver hypothesis

/-! ## The formula that is given out -/

/-- The variables and clauses of a solver, in order. -/
def exported (solver : Solver) : Cnf :=
  ⟨.number solver.backend.numVars, solver.backend.clauses.toList⟩

/-- What is exported is over the variables that it claims to be over. -/
theorem WellFormed.isOver_exported {solver : Solver} (wellFormed : solver.WellFormed) :
    solver.exported.formula.IsOver solver.exported.numVars.value :=
  wellFormed.isOver

/-- Where the engine is sound and complete, a solver finds out whether its clauses can be satisfied. -/
theorem WellFormed.solve_decides {solver : Solver} (wellFormed : solver.WellFormed)
    (decides : solver.backend.engine.Decides) :
    ∃ answer, (solve.runOn solver).1 = .ok answer ∧
      (answer = true ↔ ∃ assignment : Assignment, solver.exported.formula.eval assignment = true) := by
  obtain ⟨answer, after, solves, means⟩ := Backend.solve_decides decides wellFormed.isOver
  exact ⟨answer, by rw [runOn_solve solves], means⟩

/-- In every state that a solver can be in, it gives out its variables and clauses; these are read again
from the text that they are written as, if their numbers are short enough to be read; and what the
solver decides is what any back-end with a sound and complete engine answers about them.  And every
formula can be asked about in every state of every back-end. -/
theorem Reachable.export_faithful [Platform] {owner : Nat} {origin : Backend} {solver : Solver}
    (reachable : Reachable owner origin solver) :
    solver.toCnf = .ok solver.exported ∧
    (solver.exported.Short → Cnf.ofDimacs solver.exported.toDimacs = .ok solver.exported) ∧
    (origin.engine.Decides → ∃ answer, (solve.runOn solver).1 = .ok answer ∧
      ∀ other : Backend, other.engine.Decides →
        ((Backend.isSatisfiable solver.exported).runOn other).1 = .ok answer) ∧
    ∀ cnf : Cnf, cnf.Made → ∀ given : Backend, Backend.Answers cnf given := by
  have wellFormed := reachable.wellFormed
  have isOver := wellFormed.isOver_exported
  refine ⟨toCnf_eq wellFormed, fun short => ?_, fun decides => ?_, fun cnf made given =>
    Backend.isSatisfiable_answers (Cnf.made_iff_isOver.1 made) given⟩
  · exact Cnf.ofDimacs_toDimacs ⟨rfl, reachable.numbered⟩ isOver short
  · rw [← reachable.same_origin.2] at decides
    obtain ⟨answer, solves, means⟩ := wellFormed.solve_decides decides
    refine ⟨answer, solves, fun other otherDecides => ?_⟩
    obtain ⟨otherAnswer, asked, otherMeans⟩ :=
      (Backend.isSatisfiable_answers isOver other).decided otherDecides
    rw [asked, Bool.eq_iff_iff.2 (otherMeans.trans means.symm)]

attribute [local instance] Platform.usual in
/-- A solver with one variable that was asserted. -/
theorem export_faithful_one_variable :
    ∃ solver, Reachable 0 { engine := .least } solver ∧
      solver.toCnf = .ok ⟨2, [[1], [2]]⟩ ∧
      Cnf.ofDimacs (Cnf.toDimacs ⟨2, [[1], [2]]⟩) = .ok ⟨2, [[1], [2]]⟩ ∧
      ∃ answer, (solve.runOn solver).1 = .ok answer ∧
        ((Backend.isSatisfiable ⟨2, [[1], [2]]⟩).runOn { engine := .greatest }).1 = .ok answer := by
  have reachable : Reachable 0 { engine := .least } _ :=
    (Reachable.created.called .newVariable).called (.addClause [⟨.formula 0 1, 2⟩])
  obtain ⟨given, read, answered, _⟩ := reachable.export_faithful
  obtain ⟨answer, solves, asked⟩ := answered Engine.decides_least
  exact ⟨_, reachable, given,
    read ⟨Cnf.lt_pow_digitLimit (by decide), Cnf.lt_pow_digitLimit (by decide)⟩,
    answer, solves, asked { engine := .greatest } Engine.decides_greatest⟩

end Solver

end TensorLogic
