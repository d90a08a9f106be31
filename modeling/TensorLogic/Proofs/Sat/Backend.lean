/-
Module: TensorLogic.Proofs.Sat.Backend
Purpose: What a back-end keeps after any calls: the clauses that it accepted since it was reset, and what
  the last search decided of them.
Main exports: Engine.Honest, Backend.runOn_addClause, Backend.runOn_solve, Backend.Call, Backend.Ran,
  Backend.Bookkept, Backend.Ran.bookkept, Backend.bookkept_refused
-/
import TensorLogic.Proofs.Cnf.Extension
import TensorLogic.Proofs.Effect.Run
import TensorLogic.Proofs.Sat.Engine
import TensorLogic.Sat.Backend

namespace TensorLogic

/-- An engine is never wrong, but may come to no verdict. -/
structure Engine.Honest (engine : Engine) : Prop where
  satisfiable : ∀ {round numVars : Nat} {formula : Formula} {model : Assignment},
    formula.IsOver numVars → engine.decide round numVars formula = .satisfiable model →
      formula.eval model = true
  unsatisfiable : ∀ {round numVars : Nat} {formula : Formula},
    formula.IsOver numVars → engine.decide round numVars formula = .unsatisfiable →
      ∀ assignment : Assignment, formula.eval assignment = false

/-- An engine that decides formulas does not claim models that are none. -/
theorem Engine.Decides.honest {engine : Engine} (decides : engine.Decides) : engine.Honest :=
  ⟨decides.satisfiable, decides.unsatisfiable⟩

namespace Backend

variable {engine : Engine} {backend : Backend} {clause : WrittenClause} {literal : Whole}

/-! ## Single calls -/

/-- The back-end with one more variable. -/
def extended (backend : Backend) : Backend := { backend with numVars := backend.numVars + 1 }

/-- The back-end with one more clause, of which nothing is known yet. -/
def pushed (backend : Backend) (clause : WrittenClause) : Backend :=
  { backend with clauses := backend.clauses.push clause, decision := none }

/-- The back-end after a search. -/
def searched (backend : Backend) (decision : Option Decision) : Backend :=
  { backend with rounds := backend.rounds + 1, decision }

/-- The back-end without variables and clauses. -/
def emptied (backend : Backend) : Backend :=
  { backend with numVars := 0, clauses := #[], decision := none }

theorem runOn_newVariable (backend : Backend) :
    newVariable.runOn backend = (.ok (backend.numVars + 1), backend.extended) := rfl

/-- A clause is refused for the first literal in it that is not one of an allocated variable, and is added
if there is none. -/
theorem runOn_addClause_eq (clause : WrittenClause) (backend : Backend) :
    (addClause clause).runOn backend =
      match clause.find? (fun literal => !decide (IsLiteral backend.numVars literal.value)) with
      | some literal => (.error (.invalidLiteral (.ofWhole literal) backend.numVars), backend)
      | none => (.ok (), backend.pushed clause) := by
  unfold addClause
  rw [Act.runOn_bind_ok (Act.runOn_get _)]
  cases clause.find? (fun literal => !decide (IsLiteral backend.numVars literal.value)) <;> rfl

/-- A clause over the allocated variables is added. -/
theorem runOn_addClause
    (valid : ∀ literal ∈ clause, IsLiteral backend.numVars literal.value) :
    (addClause clause).runOn backend = (.ok (), backend.pushed clause) := by
  have noInvalid : clause.find? (fun literal =>
      !decide (IsLiteral backend.numVars literal.value)) = none := by
    rw [List.find?_eq_none]
    intro literal inside
    simp [valid literal inside]
  rw [runOn_addClause_eq, noInvalid]

/-- Any other clause is refused, for a literal in it, and nothing changes. -/
theorem runOn_addClause_refused
    (invalid : ¬∀ literal ∈ clause, IsLiteral backend.numVars literal.value) :
    ∃ literal ∈ clause, ¬IsLiteral backend.numVars literal.value ∧
      (addClause clause).runOn backend =
        (.error (.invalidLiteral (.ofWhole literal) backend.numVars), backend) := by
  rw [runOn_addClause_eq]
  cases found : clause.find? (fun literal =>
      !decide (IsLiteral backend.numVars literal.value)) with
  | some literal =>
      have isInvalid := List.find?_some found
      exact ⟨literal, List.mem_of_find?_eq_some found, by simpa using isInvalid, rfl⟩
  | none =>
      refine absurd (fun literal inside => ?_) invalid
      simpa using List.find?_eq_none.1 found literal inside

/-- A back-end hands its formula to the engine and keeps the decision. -/
theorem runOn_solve (backend : Backend) :
    solve.runOn backend =
      match backend.engine.decide backend.rounds backend.numVars backend.formula with
      | .satisfiable model => (.ok true, backend.searched (some (.model model)))
      | .unsatisfiable => (.ok false, backend.searched (some .unsatisfiable))
      | .undecided => (.error .undecided, backend.searched none) := by
  unfold solve
  rw [Act.runOn_bind_ok (Act.runOn_get backend)]
  cases backend.engine.decide backend.rounds backend.numVars backend.formula <;> rfl

/-- A literal has its value in the model that was found, if it is one of an allocated variable. -/
theorem runOn_modelValue {model : Assignment} (isModel : backend.decision = some (.model model)) :
    (modelValue literal).runOn backend =
      (if IsLiteral backend.numVars literal.value then .ok (model.holds literal.value)
        else .error (.invalidLiteral (.ofWhole literal) backend.numVars), backend) := by
  unfold modelValue
  rw [Act.runOn_bind_ok (Act.runOn_get _), isModel]
  dsimp only
  split <;> rfl

/-- Without a model there are no values. -/
theorem runOn_modelValue_of_no_model (noModel : backend.status ≠ some true) :
    (modelValue literal).runOn backend = (.error .noModel, backend) := by
  unfold modelValue
  rw [Act.runOn_bind_ok (Act.runOn_get _)]
  cases isDecision : backend.decision with
  | none => rfl
  | some decision =>
      cases decision with
      | unsatisfiable => rfl
      | model model =>
          unfold status at noModel
          rw [isDecision] at noModel
          exact absurd rfl noModel

/-- A model is known where the formula was found satisfiable. -/
theorem exists_model_of_status (isSatisfiable : backend.status = some true) :
    ∃ model, backend.decision = some (.model model) := by
  unfold status at isSatisfiable
  obtain ⟨decision, isDecision, isTrue⟩ := Option.map_eq_some_iff.1 isSatisfiable
  cases decision with
  | model model => exact ⟨model, isDecision⟩
  | unsatisfiable => cases isTrue

/-! ## Runs -/

/-- A call of a back-end from outside, with arbitrary whole numbers. -/
inductive Call where
  | newVariable
  | addClause (clause : WrittenClause)
  | solve
  | modelValue (literal : Whole)
  | reset

/-- What a call does to the back-end. -/
def Call.run : Call → Act Backend Unit
  | newVariable => do let _ ← Backend.newVariable
  | addClause clause => Backend.addClause clause
  | solve => do let _ ← Backend.solve
  | modelValue literal => do let _ ← Backend.modelValue literal
  | reset => Backend.reset

/-- A call that was made, and the back-end on which it was made. -/
structure Moment where
  call : Call
  before : Backend

/-- A back-end after some calls, the last one first.  A call may fail. -/
inductive Ran (engine : Engine) : List Moment → Backend → Prop where
  | created : Ran engine [] { engine }
  | called {history : List Moment} {backend : Backend} (ran : Ran engine history backend)
      (call : Call) : Ran engine (⟨call, backend⟩ :: history) (call.run.runOn backend).2

namespace Moment

/-- The result of a computation that did not fail. -/
def succeeded? {α : Type} (action : Act Backend α) (before : Backend) : Option α :=
  match (action.runOn before).1 with
  | .ok result => some result
  | .error _ => none

/-- The variable that was allocated, if the call allocated one. -/
def allocated? (moment : Moment) : Option Nat :=
  match moment.call with
  | .newVariable => succeeded? newVariable moment.before
  | _ => none

/-- The clause that was accepted, if the call was one to add a clause and did not fail. -/
def accepted? (moment : Moment) : Option WrittenClause :=
  match moment.call with
  | .addClause clause => (succeeded? (addClause clause) moment.before).map fun _ => clause
  | _ => none

/-- What was decided, if the call was a search and did not fail. -/
def answer? (moment : Moment) : Option Bool :=
  match moment.call with
  | .solve => succeeded? solve moment.before
  | _ => none

/-- Whether the call was to discard everything. -/
def isReset (moment : Moment) : Bool :=
  match moment.call with
  | .reset => true
  | _ => false

/-- Whether what was decided before is lost: a clause was accepted, everything was discarded, or a search
failed. -/
def isLoss (moment : Moment) : Bool :=
  match moment.call with
  | .newVariable | .modelValue _ => false
  | .addClause _ => moment.accepted?.isSome
  | .solve => moment.answer?.isNone
  | .reset => true

end Moment

/-- The calls since the last one that discarded everything. -/
def sinceReset (history : List Moment) : List Moment :=
  history.takeWhile fun moment => !moment.isReset

/-- The variables that were allocated since the last reset, in order. -/
def allocated (history : List Moment) : List Nat :=
  ((sinceReset history).filterMap Moment.allocated?).reverse

/-- The clauses that were accepted since the last reset, in order. -/
def accepted (history : List Moment) : List WrittenClause :=
  ((sinceReset history).filterMap Moment.accepted?).reverse

/-- The decisions since the last loss. -/
def answers (history : List Moment) : List Bool :=
  (history.takeWhile fun moment => !moment.isLoss).filterMap Moment.answer?

/-- What is known of a formula is right. -/
def Known (backend : Backend) : Prop :=
  match backend.decision with
  | none => True
  | some (.model model) => backend.formula.eval model = true
  | some .unsatisfiable => ∀ assignment : Assignment, backend.formula.eval assignment = false

/-- What every call keeps. -/
structure Keeps (engine : Engine) (history : List Moment) (backend : Backend) : Prop where
  engine_eq : backend.engine = engine
  numVars_eq : backend.numVars = (allocated history).length
  clauses_eq : backend.clauses.toList = accepted history
  isOver : backend.formula.IsOver backend.numVars
  known : backend.Known
  status_iff : ∀ answer, backend.status = some answer ↔ answer ∈ answers history

variable {history : List Moment} {moment : Moment}

/-! ### What a call adds to the history -/

theorem allocated_cons (notReset : moment.isReset = false) :
    allocated (moment :: history) = allocated history ++ moment.allocated?.toList := by
  unfold allocated sinceReset
  rw [List.takeWhile_cons_of_pos (by simp [notReset]), List.filterMap_cons]
  cases moment.allocated? with
  | none => simp
  | some allocated => simp

/-- The latest clause that was accepted comes last. -/
theorem accepted_cons (notReset : moment.isReset = false) :
    accepted (moment :: history) = accepted history ++ moment.accepted?.toList := by
  unfold accepted sinceReset
  rw [List.takeWhile_cons_of_pos (by simp [notReset]), List.filterMap_cons]
  cases moment.accepted? with
  | none => simp
  | some clause => simp

/-- A call that loses no answer adds its own, if it has one. -/
theorem answers_cons (noLoss : moment.isLoss = false) :
    answers (moment :: history) = moment.answer?.toList ++ answers history := by
  unfold answers
  rw [List.takeWhile_cons_of_pos (by simp [noLoss]), List.filterMap_cons]
  cases moment.answer? with
  | none => rfl
  | some answer => rfl

/-- A call that loses the answers leaves none. -/
theorem answers_of_loss (loss : moment.isLoss = true) : answers (moment :: history) = [] := by
  unfold answers
  rw [List.takeWhile_cons_of_neg (by simp [loss]), List.filterMap_nil]

/-- Looking up a value changes nothing. -/
theorem state_modelValue (literal : Whole) (backend : Backend) :
    ((modelValue literal).runOn backend).2 = backend := by
  by_cases isSatisfiable : backend.status = some true
  · obtain ⟨model, isModel⟩ := exists_model_of_status isSatisfiable
    rw [runOn_modelValue isModel]
  · rw [runOn_modelValue_of_no_model isSatisfiable]

/-- What is known is whether the clauses can be satisfied. -/
theorem Known.status_eq (known : backend.Known) {answer : Bool}
    (isAnswer : backend.status = some answer) :
    answer = true ↔ ∃ assignment : Assignment, backend.formula.eval assignment = true := by
  unfold status at isAnswer
  obtain ⟨decision, isDecision, rfl⟩ := Option.map_eq_some_iff.1 isAnswer
  unfold Known at known
  rw [isDecision] at known
  cases decision with
  | model model => exact ⟨fun _ => ⟨model, known⟩, fun _ => rfl⟩
  | unsatisfiable =>
      refine ⟨fun impossible => (nomatch impossible), fun ⟨assignment, holds⟩ => ?_⟩
      rw [known assignment] at holds
      cases holds

/-! ### One step for each call -/

namespace Keeps

/-- A new back-end has taken no calls. -/
theorem created (engine : Engine) : Keeps engine [] { engine } where
  engine_eq := rfl
  numVars_eq := rfl
  clauses_eq := rfl
  isOver := fun _ impossible => nomatch impossible
  known := trivial
  status_iff := fun _ => ⟨fun impossible => (nomatch impossible), fun impossible => (nomatch impossible)⟩

variable (keeps : Keeps engine history backend)

include keeps

/-- A call that neither allocates nor accepts nor decides anything, and by which nothing is lost. -/
theorem unchanged (notReset : moment.isReset = false) (noVariable : moment.allocated? = none)
    (noClause : moment.accepted? = none) (noAnswer : moment.answer? = none)
    (noLoss : moment.isLoss = false) : Keeps engine (moment :: history) backend where
  engine_eq := keeps.engine_eq
  numVars_eq := by
    rw [allocated_cons notReset, noVariable, Option.toList_none, List.append_nil]
    exact keeps.numVars_eq
  clauses_eq := by
    rw [accepted_cons notReset, noClause, Option.toList_none, List.append_nil]
    exact keeps.clauses_eq
  isOver := keeps.isOver
  known := keeps.known
  status_iff := by
    rw [answers_cons noLoss, noAnswer, Option.toList_none, List.nil_append]
    exact keeps.status_iff

/-- A new variable is one more, and the clauses and the answer stay. -/
theorem newVariable : Keeps engine (⟨.newVariable, backend⟩ :: history) backend.extended where
  engine_eq := keeps.engine_eq
  numVars_eq := by
    rw [allocated_cons rfl, List.length_append]
    exact congrArg Nat.succ keeps.numVars_eq
  clauses_eq := by
    rw [accepted_cons rfl]
    exact keeps.clauses_eq.trans (List.append_nil _).symm
  isOver := keeps.isOver.mono (Nat.le_succ _)
  known := keeps.known
  status_iff := by
    rw [answers_cons rfl]
    exact keeps.status_iff

/-- A clause that is accepted comes after the others, and one that is refused changes nothing. -/
theorem addClause (clause : WrittenClause) :
    Keeps engine (⟨.addClause clause, backend⟩ :: history)
      ((Backend.addClause clause).runOn backend).2 := by
  by_cases valid : ∀ literal ∈ clause, IsLiteral backend.numVars literal.value
  · have accepts := runOn_addClause valid
    have isAccepted : Moment.accepted? ⟨.addClause clause, backend⟩ = some clause := by
      simp [Moment.accepted?, Moment.succeeded?, accepts]
    have isLoss : Moment.isLoss ⟨.addClause clause, backend⟩ = true := by
      simp [Moment.isLoss, isAccepted]
    rw [accepts]
    refine ⟨keeps.engine_eq, ?_, ?_, ?_, trivial, fun answer => ?_⟩
    · rw [allocated_cons rfl]
      exact keeps.numVars_eq.trans (congrArg List.length (List.append_nil _).symm)
    · rw [accepted_cons rfl, isAccepted, ← keeps.clauses_eq]
      exact Array.toList_push
    · have isFormula : (backend.pushed clause).formula = backend.formula ++ [clause.literals] := by
        simp [formula, pushed]
      rw [isFormula]
      intro other inside literal member
      rcases List.mem_append.1 inside with old | new
      · exact keeps.isOver other old literal member
      · obtain rfl := List.mem_singleton.1 new
        obtain ⟨written, isWritten, rfl⟩ := List.mem_map.1 member
        exact valid written isWritten
    · rw [answers_of_loss isLoss]
      exact ⟨fun impossible => (nomatch impossible), fun impossible => (nomatch impossible)⟩
  · obtain ⟨literal, _, _, refused⟩ := runOn_addClause_refused valid
    have notAccepted : Moment.accepted? ⟨.addClause clause, backend⟩ = none := by
      simp [Moment.accepted?, Moment.succeeded?, refused]
    rw [refused]
    exact keeps.unchanged rfl rfl notAccepted rfl (by simp [Moment.isLoss, notAccepted])

/-- A search that comes to a decision replaces the one before, which was the same if it was not lost. -/
theorem decided {decision : Decision} {answer : Bool} (known : (backend.searched (some decision)).Known)
    (isStatus : (backend.searched (some decision)).status = some answer)
    (solves : solve.runOn backend = (.ok answer, backend.searched (some decision))) :
    Keeps engine (⟨.solve, backend⟩ :: history) (backend.searched (some decision)) := by
  have isAnswer : Moment.answer? ⟨.solve, backend⟩ = some answer := by
    simp [Moment.answer?, Moment.succeeded?, solves]
  have noLoss : Moment.isLoss ⟨.solve, backend⟩ = false := by
    simp [Moment.isLoss, isAnswer]
  refine ⟨keeps.engine_eq, ?_, ?_, keeps.isOver, known, fun other => ?_⟩
  · rw [allocated_cons rfl]
    exact keeps.numVars_eq.trans (congrArg List.length (List.append_nil _).symm)
  · rw [accepted_cons rfl]
    exact keeps.clauses_eq.trans (List.append_nil _).symm
  · rw [answers_cons noLoss, isAnswer, isStatus, Option.some_inj]
    constructor
    · rintro rfl
      exact List.mem_cons_self
    · intro inside
      rcases List.mem_cons.1 inside with rfl | earlier
      · rfl
      · -- both are the satisfiability of the same clauses
        have before := keeps.known.status_eq ((keeps.status_iff other).2 earlier)
        have now := known.status_eq isStatus
        rw [Bool.eq_iff_iff]
        exact now.trans before.symm

/-- Solving leaves variables and clauses alone; the engine is honest about the answer that is kept. -/
theorem solve (honest : engine.Honest) :
    Keeps engine (⟨.solve, backend⟩ :: history) (Backend.solve.runOn backend).2 := by
  have solves := runOn_solve backend
  cases decided : backend.engine.decide backend.rounds backend.numVars backend.formula with
  | satisfiable model =>
      rw [decided] at solves
      rw [keeps.engine_eq] at decided
      have isModel : backend.formula.eval model = true := honest.satisfiable keeps.isOver decided
      rw [solves]
      exact keeps.decided isModel rfl solves
  | unsatisfiable =>
      rw [decided] at solves
      rw [keeps.engine_eq] at decided
      have noModel := honest.unsatisfiable keeps.isOver decided
      rw [solves]
      exact keeps.decided noModel rfl solves
  | undecided =>
      rw [decided] at solves
      have noAnswer : Moment.answer? ⟨.solve, backend⟩ = none := by
        simp [Moment.answer?, Moment.succeeded?, solves]
      rw [solves]
      refine ⟨keeps.engine_eq, ?_, ?_, keeps.isOver, trivial, fun answer => ?_⟩
      · rw [allocated_cons rfl]
        exact keeps.numVars_eq.trans (congrArg List.length (List.append_nil _).symm)
      · rw [accepted_cons rfl]
        exact keeps.clauses_eq.trans (List.append_nil _).symm
      · rw [answers_of_loss (by simp [Moment.isLoss, noAnswer])]
        exact ⟨fun impossible => (nomatch impossible), fun impossible => (nomatch impossible)⟩

/-- A back-end that is reset is as good as new. -/
theorem reset : Keeps engine (⟨.reset, backend⟩ :: history) backend.emptied where
  engine_eq := keeps.engine_eq
  numVars_eq := rfl
  clauses_eq := rfl
  isOver := fun _ impossible => nomatch impossible
  known := trivial
  status_iff := fun _ => ⟨fun impossible => (nomatch impossible), fun impossible => (nomatch impossible)⟩

/-- One step: whatever is called, it is kept. -/
theorem called (honest : engine.Honest) (call : Call) :
    Keeps engine (⟨call, backend⟩ :: history) (call.run.runOn backend).2 := by
  cases call with
  | newVariable => exact keeps.newVariable
  | addClause clause => exact keeps.addClause clause
  | solve =>
      have same : (Call.solve.run.runOn backend).2 = (Backend.solve.runOn backend).2 :=
        Act.state_discard Backend.solve backend
      exact same ▸ keeps.solve honest
  | modelValue literal =>
      have same : ((Call.modelValue literal).run.runOn backend).2 = backend :=
        (Act.state_discard (Backend.modelValue literal) backend).trans
          (state_modelValue literal backend)
      rw [same]
      exact keeps.unchanged rfl rfl rfl rfl rfl
  | reset => exact keeps.reset

end Keeps

/-- What a back-end keeps is a function of the calls that it took, by induction on them. -/
theorem Ran.keeps (ran : Ran engine history backend) (honest : engine.Honest) :
    Keeps engine history backend := by
  induction ran with
  | created => exact .created engine
  | called _ call hypothesis => exact hypothesis.called honest call

/-! ## What can be relied on -/

/-- The books of a back-end after the calls of its history. -/
structure Bookkept (history : List Moment) (backend : Backend) : Prop where
  /-- Variables are those allocated since the last reset. -/
  numVars_eq : backend.numVars = (allocated history).length
  /-- Clauses are those accepted since the last reset, in order. -/
  clauses_eq : backend.clauses.toList = accepted history
  /-- Their literals are literals of allocated variables. -/
  isOver : ∀ clause ∈ backend.clauses.toList, ∀ literal ∈ clause,
    literal.value ≠ 0 ∧ literal.value.natAbs ≤ backend.numVars
  /-- A clause is accepted unless some literal is zero or one of a variable that was not allocated. -/
  accepts_iff : ∀ clause : WrittenClause, ((addClause clause).runOn backend).1 = .ok () ↔
    ∀ literal ∈ clause, literal.value ≠ 0 ∧ literal.value.natAbs ≤ backend.numVars
  /-- A clause is refused for its values, and nothing changes. -/
  refuses : ∀ (clause : WrittenClause) (fault : Fault),
    ((addClause clause).runOn backend).1 = .error fault →
      fault.category = .value ∧ ((addClause clause).runOn backend).2 = backend
  /-- The status is what a search decided since the last loss. -/
  status_iff : ∀ answer, backend.status = some answer ↔ answer ∈ answers history
  /-- It is whether the clauses can be satisfied. -/
  satisfiable_iff : ∀ answer, backend.status = some answer →
    (answer = true ↔ ∃ assignment : Assignment, backend.formula.eval assignment = true)
  /-- Values can be asked for while the status is positive, and of allocated variables only. -/
  value_iff : ∀ literal : Whole, (∃ value, ((modelValue literal).runOn backend).1 = .ok value) ↔
    backend.status = some true ∧ literal.value ≠ 0 ∧ literal.value.natAbs ≤ backend.numVars
  /-- They are those of one assignment, which satisfies all clauses, and are not changed by being asked
  for. -/
  values : backend.status = some true → ∃ model : Assignment, backend.formula.eval model = true ∧
    ∀ literal : Whole, literal.value ≠ 0 → literal.value.natAbs ≤ backend.numVars →
      (modelValue literal).runOn backend = (.ok (model.holds literal.value), backend)
  /-- Opposite literals have opposite values. -/
  negated : ∀ (literal other : Whole) (value : Bool), other.value = -literal.value →
    ((modelValue literal).runOn backend).1 = .ok value →
      ((modelValue other).runOn backend).1 = .ok !value

/-- A literal has a value exactly in a model, and if it is one of the variables there. -/
theorem exists_value_iff (literal : Whole) (backend : Backend) :
    (∃ value, ((modelValue literal).runOn backend).1 = .ok value) ↔
      backend.status = some true ∧ IsLiteral backend.numVars literal.value := by
  by_cases isSatisfiable : backend.status = some true
  · obtain ⟨model, isModel⟩ := exists_model_of_status isSatisfiable
    rw [runOn_modelValue isModel]
    by_cases isLiteral : IsLiteral backend.numVars literal.value
    · simp [isSatisfiable, isLiteral]
    · simp [isLiteral]
  · simp [runOn_modelValue_of_no_model isSatisfiable, isSatisfiable]

/-- A clause is accepted exactly if all its literals are among the variables. -/
theorem accepts_iff (clause : WrittenClause) (backend : Backend) :
    ((addClause clause).runOn backend).1 = .ok () ↔
      ∀ literal ∈ clause, IsLiteral backend.numVars literal.value := by
  refine ⟨fun accepted => ?_, fun valid => by rw [runOn_addClause valid]⟩
  by_contra invalid
  obtain ⟨literal, _, _, refused⟩ := runOn_addClause_refused invalid
  rw [refused] at accepted
  cases accepted

/-- After every run of calls on an engine that is never wrong, the books are kept: the clauses are the
accepted ones since the last reset, a refused one changes nothing, the status is what was decided since
the last loss, and is the satisfiability of the clauses, and values are read from one model of them. -/
theorem Ran.bookkept (ran : Ran engine history backend) (honest : engine.Honest) :
    Bookkept history backend := by
  have keeps := ran.keeps honest
  refine ⟨keeps.numVars_eq, keeps.clauses_eq, ?_, fun clause => accepts_iff clause backend, ?_,
    keeps.status_iff, fun answer isAnswer => keeps.known.status_eq isAnswer,
    fun literal => exists_value_iff literal backend, ?_, ?_⟩
  · intro clause inside literal member
    exact keeps.isOver clause.literals (List.mem_map_of_mem inside) literal.value
      (List.mem_map_of_mem member)
  · intro clause fault failed
    by_cases valid : ∀ literal ∈ clause, IsLiteral backend.numVars literal.value
    · rw [runOn_addClause valid] at failed
      cases failed
    · obtain ⟨literal, _, _, refused⟩ := runOn_addClause_refused valid
      rw [refused] at failed ⊢
      cases failed
      exact ⟨rfl, rfl⟩
  · intro isSatisfiable
    obtain ⟨model, isModel⟩ := exists_model_of_status isSatisfiable
    have known := keeps.known
    unfold Known at known
    rw [isModel] at known
    refine ⟨model, known, fun literal nonzero bounded => ?_⟩
    rw [runOn_modelValue isModel, if_pos ⟨nonzero, bounded⟩]
  · intro literal other value isOpposite isValue
    obtain ⟨isSatisfiable, isLiteral⟩ := (exists_value_iff literal backend).1 ⟨value, isValue⟩
    obtain ⟨model, isModel⟩ := exists_model_of_status isSatisfiable
    rw [runOn_modelValue isModel, if_pos isLiteral, Except.ok.injEq] at isValue
    have opposite : IsLiteral backend.numVars other.value := by
      rw [isOpposite]
      exact ⟨Int.neg_ne_zero.2 isLiteral.1, by rw [Int.natAbs_neg]; exact isLiteral.2⟩
    rw [runOn_modelValue isModel, if_pos opposite, isOpposite, model.holds_neg isLiteral.1, isValue]

/-- A clause over a variable that is not there yet is refused, and takes nothing from the model.  When the
variable is there, it has a value in it. -/
theorem bookkept_refused :
    ∃ history backend, Ran .least history backend ∧
      history.reverse.map Moment.call =
        [.newVariable, .addClause [1], .solve, .addClause [2], .newVariable] ∧
      Bookkept history backend ∧ accepted history = [[1]] ∧ answers history = [true] ∧
      ∃ value, ((modelValue 2).runOn backend).1 = .ok value := by
  have ran : Ran .least _ _ :=
    ((((Ran.created.called .newVariable).called (.addClause [1])).called .solve).called
      (.addClause [2])).called .newVariable
  have bookkept := ran.bookkept Engine.decides_least.honest
  exact ⟨_, _, ran, rfl, bookkept, by decide +kernel, by decide +kernel,
    (bookkept.value_iff 2).2 (by decide +kernel)⟩

end Backend

end TensorLogic
