/-
Module: TensorLogic.Proofs.Solver.Passage
Purpose: Gates and expressions over a solver, whatever their operands are and however they end, allocate
  variables, add clauses over allocated variables and announce events, and do nothing else.
Main exports: Solver.Step, Solver.building, Passage.Keeps.of_building, Solver.keeps_algebra,
  Solver.keeps_evaluate, Solver.unsearching
-/
import Mathlib.Logic.Relation
import TensorLogic.Proofs.Expr.Passage
import TensorLogic.Proofs.Solver.State
import TensorLogic.Solver.Bench

namespace TensorLogic

namespace Solver

/-- What the formula of a solver is built by: a variable is allocated, what is kept of a clause is added if
it is over the allocated variables, or an event is announced. -/
inductive Step : Solver → Solver → Prop where
  | allocate (solver : Solver) : Step solver solver.extended
  | push {solver : Solver} {codes clause : Clause} (simplified : simplify? codes = some clause)
      (allocated : ∀ literal ∈ clause, IsLiteral solver.backend.numVars literal) :
      Step solver (solver.pushed clause)
  | note (event : Event) (solver : Solver) : Step solver (HasJournal.note event solver)

/-- A formula is built in any number of steps. -/
def building : Passage Solver where
  Reaches := Relation.ReflTransGen Step
  reaches_refl := fun _ => .refl
  reaches_trans := .trans

end Solver

/-- Building leads where each of its steps leads. -/
theorem Passage.reaches_of_building {passage : Passage Solver}
    (each : ∀ {before after : Solver}, before.Step after → passage.Reaches before after)
    {before after : Solver} (built : Solver.building.Reaches before after) :
    passage.Reaches before after := by
  induction built with
  | refl => exact passage.reaches_refl before
  | tail _ step hypothesis => exact passage.reaches_trans hypothesis (each step)

/-- What builds a formula leads along any passage that its single steps lead along. -/
theorem Passage.Keeps.of_building {α : Type} {passage : Passage Solver} {action : Act Solver α}
    (builds : Solver.building.Keeps action)
    (each : ∀ {before after : Solver}, before.Step after → passage.Reaches before after) :
    passage.Keeps action :=
  fun solver => passage.reaches_of_building each (builds solver)

namespace Solver

variable {passage : Passage Solver}

theorem keeps_check (literal : Lit) : passage.Keeps (check literal) := by
  refine Passage.Keeps.get.bind fun solver => ?_
  split
  · exact .pure ()
  · exact .throw _

theorem keeps_checkAll (literals : List Lit) : passage.Keeps (checkAll literals) :=
  .forM fun literal _ => keeps_check literal

theorem keeps_neg (operand : Lit) : passage.Keeps (neg operand) :=
  (keeps_check operand).bind fun _ => .pure _

theorem keeps_operand (value : Value Lit) : passage.Keeps (operand value) := by
  cases value with
  | elem literal => exact (keeps_check literal).bind fun _ => .pure literal
  | scalar => exact .throw _
  | list => exact .throw _
  | tensor => exact .throw _

/-- Reading operands changes nothing. -/
theorem keeps_operands (values : List (Value Lit)) : passage.Keeps (operands values) := by
  induction values with
  | nil => exact .pure []
  | cons value values hypothesis =>
      exact (keeps_operand value).bind fun literal => hypothesis.bind fun literals => .pure _

/-- A gate on values leads where the gate on literals leads. -/
theorem keeps_onOperands {operation : Lit → Lit → Act Solver Lit}
    (keeps : ∀ left right, passage.Keeps (operation left right)) (left right : Value Lit) :
    passage.Keeps (onOperands operation left right) :=
  (keeps_operand left).bind fun first => (keeps_operand right).bind fun second =>
    (keeps first second).bind fun _ => .pure _

theorem keeps_onAll {operation : List Lit → Act Solver Lit}
    (keeps : ∀ literals, passage.Keeps (operation literals)) (values : List (Value Lit)) :
    passage.Keeps (onAll operation values) :=
  (keeps_operands values).bind fun literals => (keeps literals).bind fun _ => .pure _

theorem keeps_newVariable : building.Keeps newVariable :=
  fun solver => .single (.allocate solver)

theorem keeps_note (event : Event) (solver : Solver) :
    building.Reaches solver (HasJournal.note event solver) :=
  .single (.note event solver)

/-- Adding a clause is one step of building, or none where a literal is refused. -/
theorem keeps_addClause (literals : List Lit) : building.Keeps (addClause literals) := by
  refine (Passage.Keeps.forM fun literal _ => keeps_check literal).bind fun _ => ?_
  cases simplified : simplify? (literals.map Lit.code) with
  | none => exact .pure ()
  | some clause =>
      intro solver
      dsimp only
      by_cases allocated : ∀ literal ∈ clause, IsLiteral solver.backend.numVars literal
      · rw [Act.runOn_bind_ok (runOn_push allocated)]
        exact .single (.push simplified allocated)
      · obtain ⟨fault, refused⟩ := runOn_push_refused allocated
        rw [Act.runOn_bind_error refused]
        exact .refl

theorem keeps_variableTensor [Platform] (shape : Shape) : building.Keeps (variableTensor shape) :=
  .liftBind _ fun _ => .generateM (fun _ => keeps_newVariable) shape

/-- A definition builds: a new variable and then its clauses. -/
theorem keeps_define (clauses : Lit → List (List Lit)) : building.Keeps (define clauses) :=
  keeps_newVariable.bind fun _ =>
    (Passage.Keeps.forM fun literals _ => keeps_addClause literals).bind fun _ => .pure _

/-- An operation that gives a simple result if it has one, and a gate otherwise. -/
theorem keeps_gate (operands : List Lit) (simple? : Solver → Option Lit)
    (clauses : Lit → List (List Lit)) :
    building.Keeps (do
      checkAll operands
      match simple? (← get) with
      | some simple => pure simple
      | none => define clauses) := by
  refine (keeps_checkAll operands).bind fun _ => Passage.Keeps.get.bind fun solver => ?_
  cases simple? solver with
  | some simple => exact .pure simple
  | none => exact keeps_define clauses

theorem keeps_conj (left right : Lit) : building.Keeps (conj left right) :=
  keeps_gate [left, right] (fun solver => simpleConj? solver.owner left right) _

theorem keeps_disj (left right : Lit) : building.Keeps (disj left right) :=
  keeps_gate [left, right] (fun solver => simpleDisj? solver.owner left right) _

theorem keeps_xor (left right : Lit) : building.Keeps (xor left right) :=
  keeps_gate [left, right] (fun solver => simpleXor? solver.owner left right) _

theorem keeps_all (literals : List Lit) : building.Keeps (all literals) := by
  refine (keeps_checkAll literals).bind fun _ => Passage.Keeps.get.bind fun solver => ?_
  dsimp only
  split
  · exact .pure _
  · exact .pure _
  · exact .pure _
  · exact keeps_define _

theorem keeps_any (literals : List Lit) : building.Keeps (any literals) := by
  refine (keeps_checkAll literals).bind fun _ => Passage.Keeps.get.bind fun solver => ?_
  dsimp only
  split
  · exact .pure _
  · exact .pure _
  · exact .pure _
  · exact keeps_define _

/-- All operations of the algebra of a solver build. -/
theorem keeps_algebra (owner : Nat) : (algebra owner).Keeps building := by
  have negates : ∀ value, building.Keeps ((algebra owner).neg value) := fun value =>
    (keeps_operand value).bind fun operand => (keeps_neg operand).bind fun _ => .pure _
  have conjoins : ∀ left right, building.Keeps ((algebra owner).conj left right) :=
    keeps_onOperands (keeps_conj)
  have joins : ∀ left right, building.Keeps ((algebra owner).disj left right) :=
    keeps_onOperands (keeps_disj)
  have differs : ∀ left right, building.Keeps ((algebra owner).xor left right) :=
    keeps_onOperands (keeps_xor)
  have compares : ∀ left right, building.Keeps ((algebra owner).iff left right) :=
    Constants.keeps_iffOf negates differs
  have orders : ∀ lefts rights, building.Keeps ((algebra owner).lexLt lefts rights) :=
    Constants.keeps_lexLtOf conjoins joins negates compares
  have choosesOne :=
    @Constants.keeps_oneOf _ _ _ (algebra owner).toConstants _ _ _ conjoins joins negates
  refine ⟨negates, fun connective => ?_, fun aggregate => ?_, fun comparison => ?_⟩
  · cases connective with
    | conj => exact conjoins
    | disj => exact joins
    | xor => exact differs
    | iff => exact compares
    | imp => exact Constants.keeps_impOf negates joins
  · cases aggregate with
    | all => exact keeps_onAll (keeps_all)
    | any => exact keeps_onAll (keeps_any)
    | parity => exact Constants.keeps_parityFrom differs _
    | one => exact choosesOne
    | many => exact Constants.keeps_manyOf conjoins joins
    | allEqual => exact Constants.keeps_allEqualOf conjoins compares
  · cases comparison with
    | lexLt => exact orders
    | lexLe => exact Constants.keeps_lexLeOf negates orders

/-- An expression over a solver, whatever it is and however it ends, leads only where making gates
does. -/
theorem keeps_evaluate [Platform] (names : Environment Lit) (site : Site) (expression : Expr) :
    building.Keeps (evaluate names site expression) :=
  Passage.Keeps.get.bind fun solver =>
    Expr.keeps_eval ⟨keeps_note, keeps_algebra solver.owner⟩ names site expression

/-! ## Searches -/

/-- No search was made, and the engine for the next one is the same. -/
structure Unsearched (before after : Solver) : Prop where
  engine_eq : after.backend.engine = before.backend.engine
  totalSolves_eq : after.totalSolves = before.totalSolves

/-- No searches are made. -/
def unsearching : Passage Solver where
  Reaches := Unsearched
  reaches_refl := fun _ => ⟨rfl, rfl⟩
  reaches_trans := fun one two =>
    ⟨two.engine_eq.trans one.engine_eq, two.totalSolves_eq.trans one.totalSolves_eq⟩

/-- Building a formula makes no searches. -/
theorem Step.unsearched {before after : Solver} (step : before.Step after) :
    unsearching.Reaches before after := by
  cases step <;> exact ⟨rfl, rfl⟩

end Solver

end TensorLogic
