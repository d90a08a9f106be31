/-
Module: TensorLogic.Proofs.Solver.Reachable
Purpose: The states that a solver can be in after any calls, failing ones included, and what holds in
  all of them.
Main exports: Backend.Builds, Solver.Upholds, Solver.Call, Solver.builds_call, Solver.Reachable,
  Solver.Reachable.wellFormed
-/
import TensorLogic.Proofs.Solver.Passage
import TensorLogic.Proofs.Solver.State

namespace TensorLogic

namespace Backend

/-- The formula of a back-end was only added to, and stays one over the allocated variables. -/
structure Builds (before after : Backend) : Prop where
  engine_eq : after.engine = before.engine
  numVars_le : before.numVars ≤ after.numVars
  keeps_clauses : before.formula <+: after.formula
  isOver : before.formula.IsOver before.numVars → after.formula.IsOver after.numVars

/-- A formula is only added to. -/
def building : Passage Backend where
  Reaches := Builds
  reaches_refl := fun _ => ⟨rfl, Nat.le_refl _, List.prefix_refl _, id⟩
  reaches_trans := fun one two => ⟨two.engine_eq.trans one.engine_eq,
    Nat.le_trans one.numVars_le two.numVars_le, one.keeps_clauses.trans two.keeps_clauses,
    fun isOver => two.isOver (one.isOver isOver)⟩

/-- What is only known of the formula may change. -/
theorem Builds.of_same {before after : Backend} (sameEngine : after.engine = before.engine)
    (sameNumber : after.numVars = before.numVars) (sameClauses : after.clauses = before.clauses) :
    before.Builds after := by
  have sameFormula : after.formula = before.formula := by
    unfold formula
    rw [sameClauses]
  refine ⟨sameEngine, Nat.le_of_eq sameNumber.symm, ?_, ?_⟩
  · exact sameFormula.symm ▸ List.prefix_refl _
  · rw [sameFormula, sameNumber]
    exact id

/-- A variable is allocated. -/
theorem Builds.extended (backend : Backend) :
    backend.Builds { backend with numVars := backend.numVars + 1 } :=
  ⟨rfl, Nat.le_succ _, List.prefix_refl _, fun isOver => isOver.mono (Nat.le_succ _)⟩

/-- A clause over the allocated variables is added. -/
theorem Builds.pushed {backend : Backend} {clause : Clause}
    (allocated : ∀ literal ∈ clause, IsLiteral backend.numVars literal) :
    backend.Builds { backend with
      clauses := backend.clauses.push clause.written
      decision := none } := by
  have extended : formula { backend with
      clauses := backend.clauses.push clause.written
      decision := none } = backend.formula ++ [clause] := by
    simp [formula]
  refine ⟨rfl, Nat.le_refl _, ?_, fun isOver => ?_⟩
  · rw [extended]
    exact List.prefix_append _ _
  · rw [extended]
    intro other inside
    rcases List.mem_append.1 inside with old | new
    · exact isOver other old
    · exact List.mem_singleton.1 new ▸ allocated

theorem keeps_solve : building.Keeps solve := by
  intro backend
  unfold solve
  rw [Act.runOn_bind_ok (Act.runOn_get backend)]
  cases backend.engine.decide backend.rounds backend.numVars backend.formula with
  | satisfiable model => exact .of_same rfl rfl rfl
  | unsatisfiable => exact .of_same rfl rfl rfl
  | undecided => exact .of_same rfl rfl rfl

end Backend

namespace Solver

/-- A solver still has its number and its formula, which was only added to. -/
structure Upholds (before after : Solver) : Prop where
  owner_eq : after.owner = before.owner
  period_eq : after.period = before.period
  builds : before.backend.Builds after.backend

/-- A solver keeps its formula. -/
def upholding : Passage Solver where
  Reaches := Upholds
  reaches_refl := fun solver => ⟨rfl, rfl, Backend.building.reaches_refl solver.backend⟩
  reaches_trans := fun one two => ⟨two.owner_eq.trans one.owner_eq,
    two.period_eq.trans one.period_eq, Backend.building.reaches_trans one.builds two.builds⟩

/-- A solver that upholds what was so is still well-formed. -/
theorem WellFormed.of_upholds {before after : Solver} (wellFormed : before.WellFormed)
    (upholds : before.Upholds after) : after.WellFormed where
  isOver := upholds.builds.isOver wellFormed.isOver
  asserts_top := upholds.builds.keeps_clauses.subset wellFormed.asserts_top

/-- A live literal stays live while nothing is cleared. -/
theorem Live.of_upholds {before after : Solver} {literal : Lit} (live : before.Live literal)
    (upholds : before.Upholds after) : after.Live literal :=
  live.mono upholds.owner_eq upholds.period_eq upholds.builds.numVars_le

theorem upholds_of_same {before after : Solver} (sameOwner : after.owner = before.owner)
    (samePeriod : after.period = before.period) (sameBackend : after.backend = before.backend) :
    before.Upholds after :=
  ⟨sameOwner, samePeriod, sameBackend ▸ Backend.building.reaches_refl before.backend⟩

theorem upholds_note (event : Event) (solver : Solver) :
    solver.Upholds (HasJournal.note event solver) :=
  upholds_of_same rfl rfl rfl

theorem keeps_onBackend {α : Type} {action : Act Backend α} (keeps : Backend.building.Keeps action) :
    upholding.Keeps (onBackend action) :=
  fun solver => ⟨rfl, rfl, keeps solver.backend⟩

/-- A step of building upholds what was so. -/
theorem Step.upholds {before after : Solver} (step : before.Step after) : before.Upholds after := by
  cases step with
  | allocate => exact ⟨rfl, rfl, .extended before.backend⟩
  | push _ allocated => exact ⟨rfl, rfl, .pushed allocated⟩
  | note event => exact upholds_note event before

theorem keeps_solve : upholding.Keeps solve := by
  have announces : ∀ event, upholding.Keeps (announce event : Act Solver Unit) := upholds_note
  intro solver
  have counted : solver.Upholds { solver with totalSolves := solver.totalSolves + 1 } :=
    upholds_of_same rfl rfl rfl
  have searches : upholding.Keeps (do
      announce (.solving solver.backend.numVars solver.backend.numClauses)
      let satisfiable ← onBackend Backend.solve
      announce (.solved satisfiable)
      pure satisfiable) :=
    (announces _).bind fun _ => (keeps_onBackend Backend.keeps_solve).bind fun satisfiable =>
      (announces _).bind fun _ => .pure satisfiable
  exact upholding.reaches_trans counted (searches _)

/-- Looking up a value changes nothing. -/
theorem state_modelValue (literal : Whole) (solver : Solver) :
    ((onBackend (Backend.modelValue literal)).runOn solver).2 = solver := by
  rw [runOn_onBackend]
  unfold Backend.modelValue
  rw [Act.runOn_bind_ok (Act.runOn_get _)]
  dsimp only
  split
  · split <;> rfl
  · rfl

/-- Decoding builds nothing. -/
theorem keeps_decode (literal : Lit) : building.Keeps (decode literal) := by
  refine (keeps_check literal).bind fun _ => Passage.Keeps.get.bind fun solver => ?_
  split
  · intro solver
    rw [state_modelValue]
    exact .refl
  · exact .throw _

/-! ## Calls from outside -/

/-- A call of a solver from outside, or an announcement.  The values that are handed to it are
arbitrary. -/
inductive Call where
  | clear
  | newVariable
  | variableTensor (shape : Shape)
  | evaluate (names : Environment Lit) (site : Site) (expression : Expr)
  | assertAny (values : List (Value Lit))
  | addClause (literals : List Lit)
  | solve
  | decode (value : Value Lit)
  | announce (event : Event)

/-- What a call does to the solver. -/
def Call.run [Platform] : Call → Act Solver Unit
  | clear => Solver.clear
  | newVariable => do let _ ← Solver.newVariable
  | variableTensor shape => do let _ ← Solver.variableTensor shape
  | evaluate names site expression => do let _ ← Solver.evaluate names site expression
  | assertAny values => Solver.assertAny values
  | addClause literals => Solver.addClause literals
  | solve => do let _ ← Solver.solve
  | decode value => do let _ ← Solver.decodeValue value
  | announce event => TensorLogic.announce event

/-- The states of the solver with a number on a back-end, after any calls.  A call may fail. -/
inductive Reachable [Platform] (owner : Nat) (backend : Backend) : Solver → Prop where
  | created : Reachable owner backend (create owner backend)
  | called {solver : Solver} (call : Call) (reachable : Reachable owner backend solver) :
      Reachable owner backend (call.run.runOn solver).2

/-- The solver after it was cleared. -/
def cleared (solver : Solver) : Solver :=
  { solver with
    backend := { solver.backend with numVars := 1, clauses := #[[.number 1]], decision := none }
    period := solver.period + 1 }

theorem runOn_clear (solver : Solver) : clear.runOn solver = (.ok (), solver.cleared) := rfl

theorem wellFormed_cleared (solver : Solver) : solver.cleared.WellFormed := by
  have isFormula : solver.cleared.backend.formula = [[1]] := rfl
  constructor
  · rw [isFormula]
    change Formula.IsOver 1 [[1]]
    decide
  · rw [isFormula]
    exact List.mem_singleton_self [1]

/-- Every call but a clearing and a searching one builds the formula. -/
theorem builds_call [Platform] {call : Call} (notClear : call ≠ .clear) (notSolve : call ≠ .solve) :
    building.Keeps call.run := by
  cases call with
  | clear => exact absurd rfl notClear
  | newVariable => exact keeps_newVariable.bind fun _ => .pure ()
  | variableTensor shape => exact (keeps_variableTensor shape).bind fun _ => .pure ()
  | evaluate names site expression =>
      exact (keeps_evaluate names site expression).bind fun _ => .pure ()
  | assertAny values => exact (keeps_operands values).bind keeps_addClause
  | addClause literals => exact keeps_addClause literals
  | solve => exact absurd rfl notSolve
  | decode value => exact ((keeps_operand value).bind keeps_decode).bind fun _ => .pure ()
  | announce event => exact keeps_note event

/-- Every call but the clearing one keeps the formula. -/
theorem keeps_call [Platform] {call : Call} (keepsFormula : call ≠ .clear) : upholding.Keeps call.run := by
  by_cases isSolve : call = .solve
  · subst isSolve
    exact keeps_solve.bind fun _ => .pure ()
  · exact (builds_call keepsFormula isSolve).of_building Step.upholds

/-- In every state that a solver can be in, its formula is over the allocated variables and says that
the first one is true. -/
theorem Reachable.wellFormed [Platform] {owner : Nat} {backend : Backend} {solver : Solver}
    (reachable : Reachable owner backend solver) : solver.WellFormed := by
  induction reachable with
  | created => exact wellFormed_cleared _
  | called call _ hypothesis =>
      by_cases isClear : call = .clear
      · subst isClear
        exact wellFormed_cleared _
      · exact hypothesis.of_upholds (keeps_call isClear _)

/-- A solver keeps its number and the engine of its back-end. -/
theorem Reachable.same_origin [Platform] {owner : Nat} {backend : Backend} {solver : Solver}
    (reachable : Reachable owner backend solver) :
    solver.owner = owner ∧ solver.backend.engine = backend.engine := by
  induction reachable with
  | created => exact ⟨rfl, rfl⟩
  | @called solver call _ hypothesis =>
      by_cases isClear : call = .clear
      · subst isClear
        exact hypothesis
      · have upholds := keeps_call isClear solver
        exact ⟨upholds.owner_eq.trans hypothesis.1,
          upholds.builds.engine_eq.trans hypothesis.2⟩

end Solver

end TensorLogic
