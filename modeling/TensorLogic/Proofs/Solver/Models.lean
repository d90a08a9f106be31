/-
Module: TensorLogic.Proofs.Solver.Models
Purpose: What a search does to a solver, and the values that literals have in the model it found.
Main exports: Solver.searched, Solver.runOn_solve_of_satisfiable, Solver.runOn_solve_of_unsatisfiable,
  Solver.runOn_decode, Solver.runOn_decode_of_no_model, Solver.runOn_xor_lift
-/
import TensorLogic.Proofs.Sat.Backend
import TensorLogic.Proofs.Solver.State

namespace TensorLogic.Solver

/-- The solver after a search that came to a decision. -/
def searched (solver : Solver) (decision : Decision) : Solver :=
  { solver with
    backend := { solver.backend with
      rounds := solver.backend.rounds + 1
      decision := some decision }
    totalSolves := solver.totalSolves + 1
    journal := (solver.journal.push
      (.solving solver.backend.numVars solver.backend.numClauses)).push
        (.solved (match decision with
          | .model _ => true
          | .unsatisfiable => false)) }

variable {solver : Solver}

/-- A solver that has announced its search carries it out and announces the decision. -/
theorem runOn_solve {satisfiable : Bool} {backend : Backend}
    (ran : Backend.solve.runOn solver.backend = (.ok satisfiable, backend)) :
    solve.runOn solver = (.ok satisfiable, { solver with
      backend := backend
      totalSolves := solver.totalSolves + 1
      journal := (solver.journal.push
        (.solving solver.backend.numVars solver.backend.numClauses)).push (.solved satisfiable) }) := by
  obtain ⟨asked, isAsked⟩ : ∃ asked, asked = HasJournal.note
      (.solving solver.backend.numVars solver.backend.numClauses)
      { solver with totalSolves := solver.totalSolves + 1 } := ⟨_, rfl⟩
  have sameBackend : asked.backend = solver.backend := by rw [isAsked]; rfl
  have ranSolver : (onBackend Backend.solve).runOn asked =
      (.ok satisfiable, { asked with backend := backend }) := by
    rw [runOn_onBackend, sameBackend, ran]
  unfold solve
  rw [Act.runOn_bind_ok (Act.runOn_get _), Act.runOn_bind_ok (Act.runOn_set _ _),
    Act.runOn_bind_ok (Act.runOn_announce _ _), ← isAsked, Act.runOn_bind_ok ranSolver, isAsked]
  rfl

theorem runOn_solve_of_satisfiable {model : Assignment}
    (found : solver.backend.engine.decide solver.backend.rounds solver.backend.numVars
      solver.backend.formula = .satisfiable model) :
    solve.runOn solver = (.ok true, solver.searched (.model model)) := by
  have ran := Backend.runOn_solve solver.backend
  rw [found] at ran
  exact runOn_solve ran

theorem runOn_solve_of_unsatisfiable
    (found : solver.backend.engine.decide solver.backend.rounds solver.backend.numVars
      solver.backend.formula = .unsatisfiable) :
    solve.runOn solver = (.ok false, solver.searched .unsatisfiable) := by
  have ran := Backend.runOn_solve solver.backend
  rw [found] at ran
  exact runOn_solve ran

/-- A search does not change the formula. -/
theorem WellFormed.searched (wellFormed : solver.WellFormed) (decision : Decision) :
    (solver.searched decision).WellFormed :=
  ⟨wellFormed.isOver, wellFormed.asserts_top⟩

/-! ## Values in a model -/

section

variable {model : Assignment} (found : solver.backend.decision = some (.model model))
  (wellFormed : solver.WellFormed)

include found wellFormed

/-- A literal is decoded to its value in the model that was found. -/
theorem runOn_decode {literal : Lit} (live : solver.Live literal) :
    (decode literal).runOn solver = (.ok (model.value literal), solver) := by
  have isSatisfiable : solver.backend.status = some true := by
    unfold Backend.status
    rw [found]
    rfl
  have read : (Backend.modelValue (.number literal.code)).runOn solver.backend =
      (.ok (model.value literal), solver.backend) := by
    unfold Backend.modelValue
    rw [Act.runOn_bind_ok (Act.runOn_get _)]
    rw [found]
    dsimp only
    rw [Whole.value_number, if_pos (wellFormed.isLiteral live)]
    rfl
  have readSolver := runOn_onBackend (Backend.modelValue (.number literal.code)) solver
  rw [read] at readSolver
  unfold decode
  rw [Act.runOn_bind_ok (runOn_check live.owns), Act.runOn_bind_ok (Act.runOn_get _),
    if_pos isSatisfiable, readSolver]

theorem runOn_decodeTensor {tensor : Tensor Lit}
    (live : ∀ literal ∈ tensor.toList, solver.Live literal) :
    (decodeTensor tensor).runOn solver = (.ok (tensor.map model.value), solver) :=
  Act.runOn_tensorMapM fun literal inside => runOn_decode found wellFormed (live literal inside)

theorem runOn_decodeTensors {tensors : List (Tensor Lit)}
    (live : ∀ literal ∈ tensors.flatMap Tensor.toList, solver.Live literal) :
    (tensors.mapM decodeTensor).runOn solver =
      (.ok (tensors.map fun tensor => tensor.map model.value), solver) :=
  Act.runOn_mapM fun tensor inside => runOn_decodeTensor found wellFormed fun literal member =>
    live literal (List.mem_flatMap.2 ⟨tensor, inside, member⟩)

end

/-- Where the last search found no model, or the formula is no longer the one it was, nothing can be
decoded. -/
theorem runOn_decode_of_no_model {literal : Lit} (owns : solver.Owns literal)
    (noModel : ∀ model, solver.backend.decision ≠ some (.model model)) :
    (decode literal).runOn solver = (.error .noDecoding, solver) := by
  have notSatisfiable : solver.backend.status ≠ some true := by
    unfold Backend.status
    cases found : solver.backend.decision with
    | none => exact fun impossible => nomatch impossible
    | some decision =>
        cases decision with
        | model model => exact absurd found (noModel model)
        | unsatisfiable => exact fun impossible => nomatch impossible
  unfold decode
  rw [Act.runOn_bind_ok (runOn_check owns), Act.runOn_bind_ok (Act.runOn_get _),
    if_neg notSatisfiable]
  rfl

/-- The exclusive disjunction with a constant is the literal itself or its negation. -/
theorem runOn_xor_lift {literal : Lit} (live : solver.Live literal) (value : Bool) :
    (xor (lift solver.owner value) literal).runOn solver =
      (.ok (if value then literal.neg else literal), solver) := by
  have owns : ∀ other ∈ [lift solver.owner value, literal], solver.Owns other := by
    intro other member
    rcases List.mem_cons.1 member with rfl | inside
    · exact (live_lift solver value).owns
    · exact List.mem_singleton.1 inside ▸ live.owns
  have simple : simpleXor? solver.owner (lift solver.owner value) literal =
      some (if value then literal.neg else literal) := by
    cases value with
    | false =>
        have distinct := bot_ne_top solver.owner
        simp [simpleXor?, lift, distinct]
    | true => simp [simpleXor?, lift]
  unfold xor checkAll
  rw [Act.runOn_bind_ok (runOn_checks owns), Act.runOn_bind_ok (Act.runOn_get _), simple]
  rfl

end TensorLogic.Solver
