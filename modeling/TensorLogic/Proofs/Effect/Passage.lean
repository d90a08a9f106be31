/-
Module: TensorLogic.Proofs.Effect.Passage
Purpose: Computations that, whether they fail or not, lead to states that may come after the one they
  started in.
Main exports: Passage, Passage.Keeps, Passage.Keeps.bind, Passage.Keeps.mapM, Passage.Keeps.fold
-/
import TensorLogic.Proofs.Effect.Run
import TensorLogic.Tensor.Pointwise

namespace TensorLogic

variable {σ α β γ : Type}

/-- Which states may come after a state. -/
structure Passage (σ : Type) where
  Reaches : σ → σ → Prop
  reaches_refl : ∀ state, Reaches state state
  reaches_trans : ∀ {first second third}, Reaches first second → Reaches second third →
    Reaches first third

namespace Passage

variable (passage : Passage σ)

/-- A computation leaves a state that may come after the one it started in, also where it fails. -/
def Keeps (action : Act σ α) : Prop :=
  ∀ state, passage.Reaches state (action.runOn state).2

variable {passage}

namespace Keeps

theorem pure (value : α) : passage.Keeps (pure value) :=
  passage.reaches_refl

theorem throw (fault : Fault) : passage.Keeps (throw fault : Act σ α) :=
  passage.reaches_refl

theorem get : passage.Keeps (get : Act σ σ) :=
  passage.reaches_refl

theorem lift (given : Except Fault α) : passage.Keeps (liftM given) :=
  passage.reaches_refl

/-- What follows a step may rely on the outcome of the step. -/
theorem bindOf {action : Act σ α} {next : α → Act σ β} (first : passage.Keeps action)
    (rest : ∀ state result, (action.runOn state).1 = .ok result → passage.Keeps (next result)) :
    passage.Keeps (action >>= next) := by
  intro state
  rw [Act.runOn_bind]
  have reached := first state
  have follows := rest state
  cases ran : action.runOn state with
  | mk outcome middle =>
      rw [ran] at reached follows
      cases outcome with
      | error fault => exact reached
      | ok result => exact passage.reaches_trans reached (follows result rfl middle)

/-- Computations that take turns lead along a passage where each step does. -/
theorem bind {action : Act σ α} {next : α → Act σ β} (first : passage.Keeps action)
    (rest : ∀ result, passage.Keeps (next result)) : passage.Keeps (action >>= next) :=
  first.bindOf fun _ result _ => rest result

theorem liftBind (given : Except Fault α) {next : α → Act σ β}
    (rest : ∀ result, passage.Keeps (next result)) : passage.Keeps (liftM given >>= next) :=
  (lift given).bind rest

theorem forM {function : α → Act σ PUnit} {members : List α}
    (each : ∀ member ∈ members, passage.Keeps (function member)) :
    passage.Keeps (members.forM function) := by
  induction members with
  | nil => exact pure PUnit.unit
  | cons member members hypothesis =>
      exact (each member List.mem_cons_self).bind fun _ =>
        hypothesis fun other inside => each other (List.mem_cons_of_mem _ inside)

theorem mapM {function : α → Act σ β} {members : List α}
    (each : ∀ member, passage.Keeps (function member)) :
    passage.Keeps (members.mapM function) := by
  induction members with
  | nil => exact pure []
  | cons member members hypothesis =>
      rw [List.mapM_cons]
      exact (each member).bind fun result => hypothesis.bind fun results => pure (result :: results)

/-- Visiting members leads along a passage where each visit does. -/
theorem visit {function : α → Act σ β} (each : ∀ member, passage.Keeps (function member))
    (members : List α) : passage.Keeps (visit function members) := by
  induction members with
  | nil => exact pure (⟨[], rfl⟩ : Listed β 0)
  | cons member members hypothesis =>
      exact (each member).bind fun result => hypothesis.bind fun ⟨results, counted⟩ => pure _

theorem visit2 {function : α → β → Act σ γ} (each : ∀ left right, passage.Keeps (function left right))
    (lefts : List α) (rights : List β) (same : lefts.length = rights.length) :
    passage.Keeps (visit2 function lefts rights same) := by
  induction lefts generalizing rights with
  | nil =>
      cases rights with
      | nil => exact pure (⟨[], rfl⟩ : Listed γ 0)
      | cons => cases same
  | cons left lefts hypothesis =>
      cases rights with
      | nil => cases same
      | cons right rights =>
          exact (each left right).bind fun result =>
            (hypothesis rights (Nat.succ.inj same)).bind fun ⟨results, counted⟩ => pure _

/-! ## Tensors -/

theorem tensorMapM {function : α → Act σ β} (each : ∀ member, passage.Keeps (function member))
    (tensor : Tensor α) : passage.Keeps (tensor.mapM function) :=
  (visit each tensor.toList).bind fun found =>
    pure (Tensor.ofList tensor.shape found.1 (by rw [found.2, Tensor.length_toList]))

/-- Generating a tensor leads along a passage where each call does. -/
theorem generateM {function : Index → Act σ α} (each : ∀ index, passage.Keeps (function index))
    (shape : Shape) : passage.Keeps (Tensor.generateM shape function) :=
  (visit each shape.indices).bind fun found =>
    pure (Tensor.ofList shape found.1 (by rw [found.2, Shape.length_indices]))

/-- Going through two tensors leads along a passage where each call does, and nowhere where the shapes
disagree. -/
theorem map2 {function : α → β → Act σ γ} (each : ∀ left right, passage.Keeps (function left right))
    (left : Tensor α) (right : Tensor β) : passage.Keeps (left.map2 function right) := by
  unfold Tensor.map2
  split
  · exact (visit2 each _ _ _).bind fun found =>
      pure (Tensor.ofList left.shape found.1 (by rw [found.2, Tensor.length_toList]))
  · exact throw _

/-- Folding leads along a passage where each call does, and nowhere for a wrong number of axes. -/
theorem fold {function : List α → Act σ β} (each : ∀ members, passage.Keeps (function members))
    (count : Whole) (tensor : Tensor α) : passage.Keeps (tensor.fold function count) := by
  unfold Tensor.fold
  split
  · exact (visit each _).bind fun found =>
      pure (Tensor.ofList (tensor.shape.drop count.value.toNat) found.1
        (by rw [found.2, Tensor.slices, List.length_map, List.length_range]))
  · exact throw _

end Keeps

end Passage

end TensorLogic
