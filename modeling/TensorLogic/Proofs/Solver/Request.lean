/-
Module: TensorLogic.Proofs.Solver.Request
Purpose: What a user asks of a solver, the literals that are handed to it for that, and the literals that
  are handed back.
Main exports: Solver.Operation, Solver.Operation.guarded, Solver.Operation.runOn_of_live, Solver.Request,
  Solver.Request.upholds, Solver.Request.usable_result
-/
import TensorLogic.Proofs.Solver.Allocation
import TensorLogic.Proofs.Solver.Harmless

namespace TensorLogic.Solver

variable {solver : Solver} {literal : Lit}

/-! ## Single operations on literals -/

/-- An operation of a solver on literals: one of its algebra, the assertion of a clause, or to read the
value of a literal in the model that was found. -/
inductive Operation where
  | neg (operand : Lit)
  | conj (left right : Lit)
  | disj (left right : Lit)
  | xor (left right : Lit)
  | all (operands : List Lit)
  | any (operands : List Lit)
  | clause (operands : List Lit)
  | decode (operand : Lit)

namespace Operation

/-- The literals that an operation is applied to. -/
def operands : Operation → List Lit
  | neg operand | decode operand => [operand]
  | conj left right | disj left right | xor left right => [left, right]
  | all operands | any operands | clause operands => operands

/-- Carry out an operation and hand back the literals that it returns. -/
def run (operation : Operation) : Act Solver (List Lit) := do
  let algebra := Solver.algebra (← get).owner
  match operation with
  | neg operand => do pure (← algebra.neg (.elem operand)).elements
  | conj left right => do pure (← algebra.conj (.elem left) (.elem right)).elements
  | disj left right => do pure (← algebra.disj (.elem left) (.elem right)).elements
  | xor left right => do pure (← algebra.xor (.elem left) (.elem right)).elements
  | all operands => do pure (← algebra.all (operands.map .elem)).elements
  | any operands => do pure (← algebra.any (operands.map .elem)).elements
  | clause operands => do
      assertAny (operands.map .elem)
      pure []
  | decode operand => do
      let _ ← decodeValue (.elem operand)
      pure []

end Operation

/-! ### Foreign operands -/

/-- A literal that the solver does not own is refused by its code, and the solver stays as it is. -/
theorem runOn_operand_refused (foreign : ¬solver.Owns literal) :
    (operand (.elem literal)).runOn solver = (.error (.foreignLiteral literal.code), solver) := by
  unfold operand
  exact Act.runOn_bind_error (runOn_check_refused foreign) _

/-- An operand is looked at before all that follows. -/
theorem Guarded.operand {α : Type} {operands : List Lit} {next : Lit → Act Solver α}
    (guarded : Guarded operands (next literal)) :
    Guarded (literal :: operands) (Solver.operand (.elem literal) >>= next) :=
  Guarded.cons (fun _ owns => runOn_operand_of_owns owns)
    (fun _ foreign => runOn_operand_refused foreign) guarded

/-- Looking at the solver first does not keep an operation from guarding its operands. -/
theorem Guarded.get {α : Type} {operands : List Lit} {next : Solver → Act Solver α}
    (guarded : ∀ solver, Guarded operands (next solver)) :
    Guarded operands (MonadStateOf.get >>= next) :=
  fun solver foreign => guarded solver solver foreign

theorem guarded_operands (literals : List Lit) : Guarded literals (operands (literals.map .elem)) := by
  induction literals with
  | nil => exact guarded_nil _
  | cons literal literals hypothesis => exact Guarded.operand (hypothesis.bind _)

/-- A gate on two values guards both before it does anything. -/
theorem guarded_onOperands (operation : Lit → Lit → Act Solver Lit) (left right : Lit) :
    Guarded [left, right] (onOperands operation (.elem left) (.elem right)) :=
  Guarded.operand (Guarded.operand (guarded_nil _))

/-- Every operation looks at all of its operands before it does anything. -/
theorem Operation.guarded (operation : Operation) : Guarded operation.operands operation.run := by
  refine Guarded.get fun solver => ?_
  cases operation with
  | neg operand => exact (Guarded.operand (guarded_nil _)).bind _
  | conj left right => exact (guarded_onOperands _ left right).bind _
  | disj left right => exact (guarded_onOperands _ left right).bind _
  | xor left right => exact (guarded_onOperands _ left right).bind _
  | all operands => exact ((guarded_operands operands).bind _).bind _
  | any operands => exact ((guarded_operands operands).bind _).bind _
  | clause operands => exact ((guarded_operands operands).bind _).bind _
  | decode operand => exact (Guarded.operand (guarded_nil _)).bind _

/-! ### Operands of use -/

/-- An operation returns literals of use, or fails since there is no model to read. -/
def Proceeds (action : Act Solver (List Lit)) (solver : Solver) : Prop :=
  (∃ results after, action.runOn solver = (.ok results, after) ∧
      ∀ literal ∈ results, after.Live literal) ∨
    action.runOn solver = (.error .noDecoding, solver)

/-- What is computed by a gate is returned as a value. -/
theorem proceeds_of_isGate {operands : List Lit} {gate : Act Solver Lit} (isGate : IsGate operands gate)
    (wellFormed : solver.WellFormed) (live : ∀ literal ∈ operands, solver.Live literal)
    {action : Act Solver (Value Lit)}
    (same : action.runOn solver = (do pure (.elem (← gate)) : Act Solver (Value Lit)).runOn solver) :
    Proceeds (do pure (← action).elements) solver := by
  obtain ⟨result, after, ran, _, _, liveResult⟩ := isGate.computes solver wellFormed live
  rw [Act.runOn_bind_ok ran] at same
  refine Or.inl ⟨[result], after, ?_, List.forall_mem_singleton.2 liveResult⟩
  rw [Act.runOn_bind_ok same]
  rfl

/-- A gate on two live literals proceeds. -/
theorem proceeds_of_pair {left right : Lit} {operation : Lit → Lit → Act Solver Lit}
    (isGate : IsGate [left, right] (operation left right)) (wellFormed : solver.WellFormed)
    (live : ∀ literal ∈ [left, right], solver.Live literal) :
    Proceeds (do pure (← onOperands operation (.elem left) (.elem right)).elements) solver := by
  have liveRight := live right (List.mem_cons_of_mem _ List.mem_cons_self)
  exact proceeds_of_isGate isGate wellFormed live
    (runOn_onOperands (live left List.mem_cons_self) liveRight operation)

/-- Decoding a live literal gives its value, or reports that there is no model; the solver stays as it is.
-/
theorem runOn_decodeValue (wellFormed : solver.WellFormed) (live : solver.Live literal) :
    (∃ value, (decodeValue (.elem literal)).runOn solver = (.ok value, solver)) ∨
      (decodeValue (.elem literal)).runOn solver = (.error .noDecoding, solver) := by
  unfold decodeValue
  rw [Act.runOn_bind_ok (runOn_operand live)]
  by_cases found : ∃ model, solver.backend.decision = some (.model model)
  · obtain ⟨model, isModel⟩ := found
    exact Or.inl ⟨_, runOn_decode isModel wellFormed live⟩
  · exact Or.inr (runOn_decode_of_no_model live.owns fun model isModel => found ⟨model, isModel⟩)

/-- With operands that are of use no operation is refused. -/
theorem Operation.runOn_of_live (operation : Operation) (wellFormed : solver.WellFormed)
    (live : ∀ literal ∈ operation.operands, solver.Live literal) : Proceeds operation.run solver := by
  cases operation with
  | neg operand =>
      have liveOperand := live operand List.mem_cons_self
      refine proceeds_of_isGate (isGate_neg operand) wellFormed live ?_
      exact Act.runOn_bind_ok (runOn_operand liveOperand) _
  | conj left right => exact proceeds_of_pair (isGate_conj left right) wellFormed live
  | disj left right => exact proceeds_of_pair (isGate_disj left right) wellFormed live
  | xor left right => exact proceeds_of_pair (isGate_xor left right) wellFormed live
  | all operands => exact proceeds_of_isGate (isGate_all operands) wellFormed live (runOn_onAll live _)
  | any operands => exact proceeds_of_isGate (isGate_any operands) wellFormed live (runOn_onAll live _)
  | clause operands =>
      have liveOperands : ∀ literal ∈ operands, solver.Live literal := live
      have asserts : (assertAny (operands.map .elem)).runOn solver =
          (.ok (), solver.asserted operands) := by
        unfold assertAny
        rw [Act.runOn_bind_ok (runOn_operands liveOperands), runOn_addClause wellFormed liveOperands]
      exact Or.inl ⟨[], _, Act.runOn_bind_ok asserts _, fun _ impossible => nomatch impossible⟩
  | decode operand =>
      rcases runOn_decodeValue wellFormed (live operand List.mem_cons_self) with
        ⟨value, ran⟩ | refused
      · exact Or.inl ⟨[], _, Act.runOn_bind_ok ran _, fun _ impossible => nomatch impossible⟩
      · exact Or.inr (Act.runOn_bind_error refused _)

/-- An operation builds the formula, whether it is refused or not. -/
theorem Operation.keeps (operation : Operation) : building.Keeps operation.run := by
  refine Passage.Keeps.get.bind fun solver => ?_
  have keeps := keeps_algebra solver.owner
  cases operation with
  | neg operand => exact (keeps.neg _).bind fun _ => .pure _
  | conj left right => exact (keeps.connective .conj _ _).bind fun _ => .pure _
  | disj left right => exact (keeps.connective .disj _ _).bind fun _ => .pure _
  | xor left right => exact (keeps.connective .xor _ _).bind fun _ => .pure _
  | all operands => exact (keeps.aggregate .all _).bind fun _ => .pure _
  | any operands => exact (keeps.aggregate .any _).bind fun _ => .pure _
  | clause operands => exact ((keeps_operands _).bind keeps_addClause).bind fun _ => .pure _
  | decode operand => exact ((keeps_operand _).bind keeps_decode).bind fun _ => .pure _

/-! ## Requests -/

/-- The literals that are handed to a call. -/
def Call.given : Call → List Lit
  | evaluate names _ _ => names.flatMap fun entry => entry.2.elements
  | assertAny values => Value.elementsAll values
  | addClause literals => literals
  | decode value => value.elements
  | clear | newVariable | variableTensor _ | solve | announce _ => []

/-- Make a call and hand back the literals in its result. -/
def Call.answer [Platform] : Call → Act Solver (List Lit)
  | newVariable => do pure [← Solver.newVariable]
  | variableTensor shape => do pure (← Solver.variableTensor shape).toList
  | evaluate names site expression => do pure (← Solver.evaluate names site expression).elements
  | call => do
      call.run
      pure []

/-- It makes no difference to the solver whether the literals are handed back. -/
theorem Call.state_answer [Platform] (call : Call) (solver : Solver) :
    (call.answer.runOn solver).2 = (call.run.runOn solver).2 := by
  cases call with
  | newVariable => rfl
  | variableTensor shape =>
      exact (Act.state_map _ (Solver.variableTensor shape) solver).trans (Act.state_discard _ _).symm
  | evaluate names site expression =>
      exact (Act.state_map _ (Solver.evaluate names site expression) solver).trans
        (Act.state_discard _ _).symm
  | _ => exact Act.state_map (fun _ => []) (Call.run _) solver

/-- What a user asks of a solver: a call, or a single operation on literals. -/
inductive Request where
  | call (call : Call)
  | operation (operation : Operation)

namespace Request

/-- The literals that are handed to the solver. -/
def given : Request → List Lit
  | .call asked => asked.given
  | .operation asked => asked.operands

/-- Do what is asked, and hand back the literals in the result. -/
def run [Platform] : Request → Act Solver (List Lit)
  | .call asked => asked.answer
  | .operation asked => asked.run

/-- Whether the solver is asked to discard its formula. -/
def isClear : Request → Bool
  | .call asked => asked.isClear
  | .operation _ => false

variable {request : Request}

theorem runOn_of_isClear [Platform] (isClear : request.isClear = true) (solver : Solver) :
    request.run.runOn solver = (.ok [], solver.cleared) := by
  cases request with
  | operation => cases isClear
  | call call => cases call <;> first | rfl | cases isClear

/-- Unless it is asked to discard its formula, the solver keeps it. -/
theorem upholds [Platform] (notClear : request.isClear = false) : upholding.Keeps request.run := by
  cases request with
  | operation operation => exact operation.keeps.of_building Step.upholds
  | call call =>
      intro solver
      change solver.Upholds (call.answer.runOn solver).2
      rw [Call.state_answer]
      refine keeps_call ?_ solver
      rintro rfl
      cases notClear

/-- A solver is well-formed after any request, answered or refused. -/
theorem wellFormed [Platform] (request : Request) (wellFormed : solver.WellFormed) :
    (request.run.runOn solver).2.WellFormed := by
  cases isClear : request.isClear with
  | true =>
      rw [runOn_of_isClear isClear]
      exact wellFormed_cleared solver
  | false => exact wellFormed.of_upholds (upholds isClear solver)

variable {Other : Lit → Prop} {results : List Lit}

/-- The literals that an operation returns are of use. -/
theorem usable_of_operation {operation : Operation} (wellFormed : solver.WellFormed)
    (usable : ∀ literal ∈ operation.operands, solver.Usable Other literal)
    (ran : (operation.run.runOn solver).1 = .ok results) :
    ∀ literal ∈ results, (operation.run.runOn solver).2.Usable Other literal := by
  by_cases foreign : ∃ literal ∈ operation.operands, ¬solver.Owns literal
  · obtain ⟨_, _, _, refused⟩ := operation.guarded solver foreign
    rw [refused] at ran
    cases ran
  · have live : ∀ literal ∈ operation.operands, solver.Live literal := fun literal inside =>
      (usable literal inside).resolve_right fun ⟨isForeign, _⟩ => foreign ⟨literal, inside, isForeign⟩
    rcases operation.runOn_of_live wellFormed live with ⟨results, after, returned, live⟩ | refused
    · rw [returned] at ran ⊢
      cases ran
      exact fun literal inside => Or.inl (live literal inside)
    · rw [refused] at ran
      cases ran

/-- A call that is made for its effect hands nothing back. -/
theorem eq_nil_of_answer [Platform] {call : Call}
    (isAnswer : call.answer = (do call.run; pure [] : Act Solver (List Lit)))
    (ran : (call.answer.runOn solver).1 = .ok results) : results = [] := by
  rw [isAnswer] at ran
  obtain ⟨_, _, isNil⟩ := Act.ok_of_bind ran
  exact (Except.ok.inj isNil).symm

/-- The literals that a call returns are of use, or foreign ones that were handed in. -/
theorem usable_of_call [Platform] {call : Call} (wellFormed : solver.WellFormed)
    (usable : ∀ literal ∈ call.given, solver.Usable Other literal)
    (ran : (call.answer.runOn solver).1 = .ok results) :
    ∀ literal ∈ results, (call.answer.runOn solver).2.Usable Other literal := by
  have fresh {count : Nat} {literal : Lit} (inside : literal ∈ solver.freshLiterals count) :
      (solver.allocated count).Usable Other literal :=
    Or.inl (live_of_mem_freshLiterals wellFormed.numVars_pos inside)
  cases call with
  | newVariable =>
      cases ran
      exact fun literal inside => @fresh 1 literal inside
  | variableTensor shape =>
      by_cases listable : shape.Listable
      · obtain ⟨tensor, allocates, _, isFresh⟩ := @runOn_variableTensor solver _ shape listable
        have answers : (Call.variableTensor shape).answer.runOn solver =
            (.ok tensor.toList, solver.allocated shape.size) := Act.runOn_bind_ok allocates _
        rw [answers] at ran ⊢
        cases ran
        rw [isFresh]
        exact fun literal inside => fresh inside
      · obtain ⟨_, _, refused⟩ := runOn_variableTensor_refused solver listable
        have answers := Act.runOn_bind_error refused fun tensor => pure tensor.toList
        change (Call.variableTensor shape).answer.runOn solver = _ at answers
        rw [answers] at ran
        cases ran
  | evaluate names site expression =>
      have named : NamesOnly (solver.Usable Other) names := namesOnly_of_forall
        fun entry inside literal member => usable literal (List.mem_flatMap.2 ⟨entry, inside, member⟩)
      obtain ⟨value, isValue, isResult⟩ := Act.ok_of_bind ran
      cases isResult
      rw [Call.state_answer, Call.state_evaluate]
      exact (conserves_evaluate wellFormed named site expression).2.2 value isValue
  | _ =>
      rw [eq_nil_of_answer rfl ran]
      exact fun _ impossible => nomatch impossible

/-- The literals that a solver hands back are of use, or foreign ones that were handed in. -/
theorem usable_result [Platform] (wellFormed : solver.WellFormed)
    (usable : ∀ literal ∈ request.given, solver.Usable Other literal)
    (ran : (request.run.runOn solver).1 = .ok results) :
    ∀ literal ∈ results, (request.run.runOn solver).2.Usable Other literal := by
  cases request with
  | call call => exact usable_of_call wellFormed usable ran
  | operation operation => exact usable_of_operation wellFormed usable ran

end Request

end TensorLogic.Solver
