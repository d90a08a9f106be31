/-
Module: TensorLogic.Proofs.Solver.Guard
Purpose: Every gate looks at all of its operands before it does anything: a foreign one is refused, and
  with operands that are of use the formula grows by a complete gate.
Main exports: Solver.Guarded, Solver.Guarded.bind, Solver.guarded_checkAll, Solver.IsGate,
  Solver.isGate_conj, Solver.isGate_all
-/
import TensorLogic.Proofs.Solver.Algebra

namespace TensorLogic.Solver

variable {α β : Type} {solver : Solver} {literal left right : Lit} {literals : List Lit}

/-- Where some operand does not belong to the present formula, an operation is refused for one that does
not, before anything happened. -/
def Guarded (operands : List Lit) (action : Act Solver α) : Prop :=
  ∀ solver : Solver, (∃ literal ∈ operands, ¬solver.Owns literal) →
    ∃ literal ∈ operands, ¬solver.Owns literal ∧
      action.runOn solver = (.error (.foreignLiteral literal.code), solver)

theorem runOn_check_refused (foreign : ¬solver.Owns literal) :
    (check literal).runOn solver = (.error (.foreignLiteral literal.code), solver) := by
  unfold check
  rw [Act.runOn_bind_ok (Act.runOn_get solver), if_neg foreign, Act.runOn_throw]

/-- What follows does not happen. -/
theorem Guarded.bind {operands : List Lit} {action : Act Solver α}
    (guarded : Guarded operands action) (next : α → Act Solver β) :
    Guarded operands (action >>= next) := by
  intro solver foreign
  obtain ⟨literal, inside, isForeign, refused⟩ := guarded solver foreign
  exact ⟨literal, inside, isForeign, Act.runOn_bind_error refused next⟩

/-- One operand is looked at, and then the others. -/
theorem Guarded.cons {operands : List Lit} {first : Act Solver α} {next : α → Act Solver β} {result : α}
    (passes : ∀ solver : Solver, solver.Owns literal → first.runOn solver = (.ok result, solver))
    (refuses : ∀ solver : Solver, ¬solver.Owns literal →
      first.runOn solver = (.error (.foreignLiteral literal.code), solver))
    (guarded : Guarded operands (next result)) : Guarded (literal :: operands) (first >>= next) := by
  rintro solver ⟨other, inside, isForeign⟩
  by_cases owns : solver.Owns literal
  · have later : other ∈ operands := by
      rcases List.mem_cons.1 inside with rfl | later
      · exact absurd owns isForeign
      · exact later
    obtain ⟨found, isOperand, foundForeign, refused⟩ := guarded solver ⟨other, later, isForeign⟩
    refine ⟨found, List.mem_cons_of_mem _ isOperand, foundForeign, ?_⟩
    rw [Act.runOn_bind_ok (passes solver owns), refused]
  · exact ⟨literal, List.mem_cons_self, owns, Act.runOn_bind_error (refuses solver owns) next⟩

theorem guarded_nil (action : Act Solver α) : Guarded [] action :=
  fun _ ⟨_, impossible, _⟩ => nomatch impossible

theorem guarded_check (literal : Lit) : Guarded [literal] (check literal) := by
  rintro solver ⟨other, inside, isForeign⟩
  obtain rfl := List.mem_singleton.1 inside
  exact ⟨other, inside, isForeign, runOn_check_refused isForeign⟩

theorem guarded_checkAll (literals : List Lit) : Guarded literals (checkAll literals) := by
  induction literals with
  | nil => exact guarded_nil _
  | cons literal literals hypothesis =>
      exact Guarded.cons (fun _ owns => runOn_check owns)
        (fun _ foreign => runOn_check_refused foreign) hypothesis

/-- An operation that is guarded, and makes a complete gate of operands that are of use, or finds its result
among the literals that there are. -/
structure IsGate (operands : List Lit) (action : Act Solver Lit) : Prop where
  guarded : Guarded operands action
  computes : ∀ solver : Solver, solver.WellFormed → (∀ literal ∈ operands, solver.Live literal) →
    ∃ result after, action.runOn solver = (.ok result, after) ∧ after.WellFormed ∧
      solver.Grows after ∧ after.Live result

theorem isGate_neg (literal : Lit) : IsGate [literal] (neg literal) where
  guarded := (guarded_check literal).bind _
  computes := by
    intro solver wellFormed live
    obtain ⟨result, after, ran, wellFormedAfter, grows, liveAfter, _⟩ :=
      realizes_neg (fun _ => true) solver literal (live literal List.mem_cons_self) wellFormed
    exact ⟨result, after, ran, wellFormedAfter, grows, liveAfter⟩

/-- An operation on two literals that computes its result under every assignment makes a gate. -/
theorem isGate_of_realizes {connective : Connective} {operation : Lit → Lit → Act Solver Lit}
    (guarded : Guarded [left, right] (operation left right))
    (realizes : (literalValuation fun _ => true).Realizes connective operation) :
    IsGate [left, right] (operation left right) where
  guarded := guarded
  computes := by
    intro solver wellFormed live
    obtain ⟨result, after, ran, wellFormedAfter, grows, liveAfter, _⟩ :=
      realizes solver left right (live left List.mem_cons_self)
        (live right (List.mem_cons_of_mem _ List.mem_cons_self)) wellFormed
    exact ⟨result, after, ran, wellFormedAfter, grows, liveAfter⟩

theorem isGate_conj (left right : Lit) : IsGate [left, right] (conj left right) :=
  isGate_of_realizes ((guarded_checkAll _).bind _) (realizes_conj _)

theorem isGate_disj (left right : Lit) : IsGate [left, right] (disj left right) :=
  isGate_of_realizes ((guarded_checkAll _).bind _) (realizes_disj _)

theorem isGate_xor (left right : Lit) : IsGate [left, right] (xor left right) :=
  isGate_of_realizes ((guarded_checkAll _).bind _) (realizes_xor _)

theorem isGate_all (literals : List Lit) : IsGate literals (all literals) where
  guarded := (guarded_checkAll literals).bind _
  computes := by
    intro solver wellFormed live
    obtain ⟨result, after, ran, wellFormedAfter, grows, liveAfter, _⟩ :=
      realizes_all (fun _ => true) solver literals live wellFormed
    exact ⟨result, after, ran, wellFormedAfter, grows, liveAfter⟩

theorem isGate_any (literals : List Lit) : IsGate literals (any literals) where
  guarded := (guarded_checkAll literals).bind _
  computes := by
    intro solver wellFormed live
    obtain ⟨result, after, ran, wellFormedAfter, grows, liveAfter, _⟩ :=
      realizes_any (fun _ => true) solver literals live wellFormed
    exact ⟨result, after, ran, wellFormedAfter, grows, liveAfter⟩

end TensorLogic.Solver
