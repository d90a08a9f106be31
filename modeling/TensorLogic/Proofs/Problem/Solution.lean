/-
Module: TensorLogic.Proofs.Problem.Solution
Purpose: What the solutions of a problem are, and which of them are told apart.
Main exports: Problem.Fits, Problem.verdict, Problem.Solves, Problem.context, Problem.WellPosed,
  Problem.Listable, Problem.check_eq, Problem.outcome_check
-/
import TensorLogic.Problem.Solve
import TensorLogic.Proofs.Expr.Reading
import TensorLogic.Proofs.Expr.Truth
import TensorLogic.Proofs.Tensor.Capacity
import TensorLogic.Proofs.Tensor.Natural

namespace TensorLogic

namespace Problem

variable (problem : Problem)

/-- The tensors have the shapes of the masks. -/
def Fits (solution : Solution) : Prop := solution.map Tensor.shape = problem.shapes

/-- The tensors as values over plain truth values. -/
def onTruth (solution : Solution) : List (Tensor (Value Empty)) :=
  solution.map fun tensor => tensor.map Value.bool

/-- Whether the predicate holds on some tensors, or how it fails. -/
def verdict [Platform] (solution : Solution) : Except Fault Bool :=
  ((problem.check (onTruth solution)).runOn (#[] : Journal)).1

/-- Tensors of the right shapes on which the predicate holds. -/
def Solves [Platform] (solution : Solution) : Prop :=
  problem.Fits solution ∧ problem.verdict solution = .ok true

/-- The names of the tensors stand for tensors of truth values. -/
def context : Context :=
  (List.range problem.masks.length).map fun number => (toString number, .tensor .elem)

/-- The predicate is made of the operations of an algebra, and has a value on all tensors of the right
shapes. -/
structure WellPosed [Platform] : Prop where
  typed : problem.predicate.HasKind problem.context .elem
  evaluates : ∀ solution, problem.Fits solution → ∃ holds, problem.verdict solution = .ok holds

/-- The coordinates on all axes of the tensors can be listed, so that variables can be allocated for them.
This is not a matter of course: a tensor without cells may have dimensions of any size. -/
def Listable [Platform] : Prop := ∀ shape ∈ problem.shapes, shape.Listable

variable {problem} {solution : Solution}

/-- A solution has one tensor for each mask. -/
theorem Fits.length_eq (fits : problem.Fits solution) : solution.length = problem.masks.length := by
  have lengths := congrArg List.length fits
  rwa [List.length_map, shapes, List.length_map] at lengths

/-- To a problem with one mask that has no axes, only single truth values fit. -/
theorem Fits.eq_scalar (fits : problem.Fits solution) (isScalar : problem.shapes = [[]]) :
    ∃ value, solution = [.scalar value] := by
  unfold Fits at fits
  rw [isScalar] at fits
  obtain ⟨tensor, rfl, noAxes⟩ := List.map_eq_singleton_iff.1 fits
  obtain ⟨value, isValue⟩ := List.length_eq_one_iff.1
    ((Tensor.length_toList tensor).trans (congrArg Shape.size noAxes))
  exact ⟨value, congrArg (fun tensor => [tensor]) (Tensor.ext_toList noAxes isValue)⟩

theorem lookup_numbered {β : Type} (Property : Value β → Prop) (tensors : List (Tensor (Value β)))
    (start : Nat) (each : ∀ tensor ∈ tensors, Property (.ofTensor tensor)) {name : String} {kind : Kind}
    (found : ((List.range' start tensors.length).map fun number =>
      (toString number, Kind.tensor .elem)).lookup name = some kind) :
    kind = .tensor .elem ∧ ∃ value, ((tensors.zipIdx start).map fun (tensor, number) =>
      (toString number, Value.ofTensor tensor)).lookup name = some value ∧ Property value := by
  induction tensors generalizing start with
  | nil => cases found
  | cons tensor tensors hypothesis =>
      rw [List.length_cons, List.range'_succ, List.map_cons, List.lookup_cons] at found
      rw [List.zipIdx_cons, List.map_cons, List.lookup_cons]
      cases same : name == toString start with
      | true =>
          rw [same] at found
          cases found
          exact ⟨rfl, .ofTensor tensor, rfl, each tensor List.mem_cons_self⟩
      | false =>
          rw [same] at found
          exact hypothesis (start + 1)
            (fun other inside => each other (List.mem_cons_of_mem _ inside)) found

/-- Where there is a tensor for each mask, every name of the problem stands for one of them. -/
theorem lookup_environment {β : Type} (Property : Value β → Prop) {tensors : List (Tensor (Value β))}
    (counted : tensors.length = problem.masks.length)
    (each : ∀ tensor ∈ tensors, Property (.ofTensor tensor)) {name : String} {kind : Kind}
    (found : problem.context.lookup name = some kind) :
    kind = .tensor .elem ∧
      ∃ value, (environment tensors).lookup name = some value ∧ Property value := by
  unfold context at found
  rw [← counted, List.range_eq_range'] at found
  exact lookup_numbered Property tensors 0 each found

/-- Tensors of truth values are what the predicate is made for. -/
theorem environment_related (fits : problem.Fits solution) :
    Environment.Related Truth.Same problem.context (environment (onTruth solution))
      (environment (onTruth solution)) := by
  intro name kind found
  have counted : (onTruth solution).length = problem.masks.length := by
    rw [onTruth, List.length_map, fits.length_eq]
  have each : ∀ tensor ∈ onTruth solution, (Kind.tensor .elem).Relates Truth.Same
      (Value.ofTensor tensor) (Value.ofTensor tensor) := by
    intro tensor inside
    obtain ⟨original, _, rfl⟩ := List.mem_map.1 inside
    have alike : Tensor.Related (Truth.Same : Value Empty → Value Empty → Prop)
        (original.map Value.bool) (original.map Value.bool) :=
      .of_map original fun value => ⟨value, rfl, rfl⟩
    exact Kind.Relates.ofTensor alike
  obtain ⟨rfl, value, isValue, related⟩ := lookup_environment
    (fun value => (Kind.tensor .elem).Relates Truth.Same value value) counted each found
  exact ⟨value, value, isValue, isValue, related⟩

variable {σ : Type} [HasJournal σ]

/-- To check a solution of the right shapes is to evaluate the predicate on it. -/
theorem check_eq [Platform] (fits : problem.Fits solution) :
    (problem.check (onTruth solution) : Act σ Bool) = (do
      let value ← problem.compute Truth.algebra (onTruth solution)
      pure value.truth) := by
  unfold check
  have sameShapes : (onTruth solution).map Tensor.shape = problem.shapes := by
    rw [← fits, onTruth, List.map_map]
    rfl
  rw [if_pos (congrArg (List.map Shape.values) sameShapes)]

/-- Checking some tensors has the same outcome in every state. -/
theorem outcome_check [Platform] (wellPosed : problem.WellPosed) (fits : problem.Fits solution) (state : σ) :
    ((problem.check (onTruth solution)).runOn state).1 = problem.verdict solution := by
  unfold verdict
  rw [check_eq fits, check_eq fits]
  have same := wellPosed.typed.outcome_eq (environment_related fits) [] state (#[] : Journal)
  unfold compute
  rw [Act.runOn_bind, Act.runOn_bind]
  generalize Act.runOn _ state = first at same ⊢
  generalize Act.runOn _ (#[] : Journal) = second at same ⊢
  obtain ⟨outcome, after⟩ := first
  obtain ⟨other, afterOther⟩ := second
  cases same
  cases outcome <;> rfl

/-- Checking some tensors leads where announcements lead. -/
theorem keeps_check [Platform] {passage : Passage σ}
    (notes : ∀ event state, passage.Reaches state (HasJournal.note event state))
    (tensors : List (Tensor (Value Empty))) :
    passage.Keeps (problem.check tensors : Act σ Bool) := by
  unfold check
  split
  · exact (Expr.keeps_truth notes _ _ _).bind fun value => .pure value.truth
  · exact .throw _

end Problem

end TensorLogic
