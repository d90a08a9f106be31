/-
Module: TensorLogic.Proofs.Effect.Run
Purpose: What a computation that may fail and change a state comes to when it is run, step by step.
Main exports: Act.runOn, Act.runOn_bind, Act.runOn_bind_ok, Act.runOn_bind_error, Act.ok_of_bind,
  Act.runOn_of_bind, Act.runOn_map, Act.state_map, Act.state_discard, Act.runOn_mapM, Act.runOn_tensorMapM
-/
import TensorLogic.Effect
import TensorLogic.Tensor.Pointwise

namespace TensorLogic

namespace Act

variable {σ α β : Type}

/-- The outcome of a computation that starts in a state, and the state that it leaves. -/
def runOn (action : Act σ α) (state : σ) : Except Fault α × σ := action.run.run state

@[simp]
theorem runOn_pure (value : α) (state : σ) :
    (pure value : Act σ α).runOn state = (.ok value, state) := rfl

@[simp]
theorem runOn_throw (fault : Fault) (state : σ) :
    (throw fault : Act σ α).runOn state = (.error fault, state) := rfl

@[simp]
theorem runOn_get (state : σ) : (get : Act σ σ).runOn state = (.ok state, state) := rfl

@[simp]
theorem runOn_set (next state : σ) : (set next : Act σ Unit).runOn state = (.ok (), next) := rfl

@[simp]
theorem runOn_modify (change : σ → σ) (state : σ) :
    (modify change : Act σ Unit).runOn state = (.ok (), change state) := rfl

@[simp]
theorem runOn_lift (given : Except Fault α) (state : σ) :
    (liftM given : Act σ α).runOn state = (given, state) := rfl

@[simp]
theorem runOn_announce [HasJournal σ] (event : Event) (state : σ) :
    (announce event : Act σ Unit).runOn state = (.ok (), HasJournal.note event state) := rfl

/-- The second computation runs on the state that the first leaves, and not at all if the first fails. -/
theorem runOn_bind (first : Act σ α) (next : α → Act σ β) (state : σ) :
    (first >>= next).runOn state =
      match first.runOn state with
      | (.ok value, middle) => (next value).runOn middle
      | (.error fault, middle) => (.error fault, middle) := by
  simp only [runOn, ExceptT.run, StateT.run, bind, ExceptT.bind, ExceptT.mk, StateT.bind]
  generalize first state = found
  obtain ⟨outcome, middle⟩ := found
  cases outcome <;> rfl

/-- A step that succeeds hands its value and its state to the next one. -/
theorem runOn_bind_ok {first : Act σ α} {value : α} {state middle : σ}
    (ran : first.runOn state = (.ok value, middle)) (next : α → Act σ β) :
    (first >>= next).runOn state = (next value).runOn middle := by
  rw [runOn_bind, ran]

/-- A step that fails ends the computation. -/
theorem runOn_bind_error {first : Act σ α} {fault : Fault} {state middle : σ}
    (ran : first.runOn state = (.error fault, middle)) (next : α → Act σ β) :
    (first >>= next).runOn state = (.error fault, middle) := by
  rw [runOn_bind, ran]

/-- A computation that succeeds does so after a first step that succeeded. -/
theorem ok_of_bind {first : Act σ α} {next : α → Act σ β} {state : σ} {result : β}
    (ran : ((first >>= next).runOn state).1 = .ok result) :
    ∃ value, (first.runOn state).1 = .ok value ∧
      ((next value).runOn (first.runOn state).2).1 = .ok result := by
  rw [runOn_bind] at ran
  cases step : first.runOn state with
  | mk outcome middle =>
      rw [step] at ran
      cases outcome with
      | error fault => cases ran
      | ok value => exact ⟨value, rfl, ran⟩

/-- A computation that succeeds does so after a first step that succeeded, in the state that this step
left. -/
theorem runOn_of_bind {first : Act σ α} {next : α → Act σ β} {state after : σ} {result : β}
    (ran : (first >>= next).runOn state = (.ok result, after)) :
    ∃ value middle, first.runOn state = (.ok value, middle) ∧
      (next value).runOn middle = (.ok result, after) := by
  rw [runOn_bind] at ran
  cases step : first.runOn state with
  | mk outcome middle =>
      rw [step] at ran
      cases outcome with
      | error fault => cases ran
      | ok value => exact ⟨value, middle, rfl, ran⟩

/-- A function on the result changes neither the faults nor the state. -/
theorem runOn_map (function : α → β) (action : Act σ α) (state : σ) :
    (function <$> action).runOn state =
      ((action.runOn state).1.map function, (action.runOn state).2) := by
  rw [map_eq_pure_bind, runOn_bind]
  rcases action.runOn state with ⟨outcome, after⟩
  cases outcome <;> rfl

/-- What is made of a result in the end does not matter for the state. -/
theorem state_map (function : α → β) (action : Act σ α) (state : σ) :
    ((do pure (function (← action)) : Act σ β).runOn state).2 = (action.runOn state).2 := by
  rw [runOn_bind]
  rcases action.runOn state with ⟨outcome, after⟩
  cases outcome <;> rfl

/-- Where a computation is made for its effect, its result does not matter. -/
theorem state_discard (action : Act σ α) (state : σ) :
    ((do let _ ← action : Act σ Unit).runOn state).2 = (action.runOn state).2 :=
  state_map (fun _ => ()) action state

/-! ## Steps that leave the state as it is -/

section

variable {function : α → Act σ β} {value : α → β} {state : σ} {members : List α}
  (each : ∀ member ∈ members, (function member).runOn state = (.ok (value member), state))

include each

/-- Where each member is computed without a change, so are all of them. -/
theorem runOn_mapM : (members.mapM function).runOn state = (.ok (members.map value), state) := by
  induction members with
  | nil => rfl
  | cons member members hypothesis =>
      have rest := hypothesis fun other inside => each other (List.mem_cons_of_mem _ inside)
      rw [List.mapM_cons, runOn_bind_ok (each member List.mem_cons_self), runOn_bind_ok rest]
      rfl

theorem runOn_visit :
    (visit function members).runOn state = (.ok ⟨members.map value, List.length_map value⟩, state) := by
  induction members with
  | nil => rfl
  | cons member members hypothesis =>
      have rest := hypothesis fun other inside => each other (List.mem_cons_of_mem _ inside)
      unfold visit
      rw [runOn_bind_ok (each member List.mem_cons_self), runOn_bind_ok rest]
      rfl

end

/-- Where each element is computed without a change, so is the tensor. -/
theorem runOn_tensorMapM {function : α → Act σ β} {value : α → β} {state : σ} {tensor : Tensor α}
    (each : ∀ member ∈ tensor.toList, (function member).runOn state = (.ok (value member), state)) :
    (tensor.mapM function).runOn state = (.ok (tensor.map value), state) := by
  unfold Tensor.mapM
  rw [runOn_bind_ok (runOn_visit each)]
  rfl

end Act

end TensorLogic
