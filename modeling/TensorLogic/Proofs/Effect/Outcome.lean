/-
Module: TensorLogic.Proofs.Effect.Outcome
Purpose: When a computation without a state succeeds, and in what ways it fails.
Main exports: Outcome.bind_eq_ok_iff, Outcome.map_eq_ok_iff, Outcome.mapM_eq_ok_iff,
  Outcome.exists_of_mem, Outcome.exists_mapM, FailsAs
-/
import Mathlib.Data.List.Forall2
import TensorLogic.Fault

namespace TensorLogic

variable {α β γ : Type}

namespace Outcome

/-- Two steps succeed when both do, one after the other. -/
theorem bind_eq_ok_iff {ε : Type} {first : Except ε α} {next : α → Except ε β} {result : β} :
    (first >>= next) = .ok result ↔ ∃ value, first = .ok value ∧ next value = .ok result := by
  cases first <;> simp [bind, Except.bind]

theorem map_eq_ok_iff {ε : Type} {function : α → β} {read : Except ε α} {result : β} :
    read.map function = .ok result ↔ ∃ value, read = .ok value ∧ function value = result := by
  cases read <;> simp [Except.map]

/-- Members are all read where each of them is read. -/
theorem mapM_eq_ok_iff {ε : Type} {function : α → Except ε β} {members : List α}
    {results : List β} :
    members.mapM function = .ok results ↔
      List.Forall₂ (fun member result => function member = .ok result) members results := by
  induction members generalizing results with
  | nil =>
      rw [List.mapM_nil, List.forall₂_nil_left_iff]
      exact ⟨fun same => by cases same; rfl, fun same => by rw [same]; rfl⟩
  | cons member members hypothesis =>
      rw [List.mapM_cons, bind_eq_ok_iff, List.forall₂_cons_left_iff]
      simp only [bind_eq_ok_iff, hypothesis]
      constructor
      · rintro ⟨value, read, values, others, same⟩
        cases same
        exact ⟨value, values, read, others, rfl⟩
      · rintro ⟨value, values, read, others, rfl⟩
        exact ⟨value, read, values, others, rfl⟩

/-- A function that succeeds on each member succeeds on the list. -/
theorem mapM_eq_ok {ε : Type} {function : α → Except ε β} {value : α → β} {members : List α}
    (each : ∀ member ∈ members, function member = .ok (value member)) :
    members.mapM function = .ok (members.map value) := by
  rw [mapM_eq_ok_iff, List.forall₂_map_right_iff]
  exact List.forall₂_same.2 each

/-- Every result is that of some member. -/
theorem of_mem_mapM {ε : Type} {function : α → Except ε β} {members : List α} {results : List β}
    (read : members.mapM function = .ok results) {result : β} (isOne : result ∈ results) :
    ∃ member ∈ members, function member = .ok result := by
  have each := mapM_eq_ok_iff.1 read
  clear read
  induction each with
  | nil => cases isOne
  | cons first rest hypothesis =>
      rcases List.mem_cons.1 isOne with rfl | isOne
      · exact ⟨_, List.mem_cons_self, first⟩
      · obtain ⟨member, inside, same⟩ := hypothesis isOne
        exact ⟨member, List.mem_cons_of_mem _ inside, same⟩

/-- Where members are all read, each of them has a result. -/
theorem exists_of_mem {ε : Type} {function : α → Except ε β} {members : List α} {results : List β}
    (read : members.mapM function = .ok results) {member : α} (isOne : member ∈ members) :
    ∃ result ∈ results, function member = .ok result := by
  have each := mapM_eq_ok_iff.1 read
  clear read
  induction each with
  | nil => cases isOne
  | cons first rest hypothesis =>
      rcases List.mem_cons.1 isOne with rfl | isOne
      · exact ⟨_, List.mem_cons_self, first⟩
      · rcases hypothesis isOne with ⟨result, listed, same⟩
        exact ⟨result, List.mem_cons_of_mem _ listed, same⟩

/-- Members that have a result each are all read. -/
theorem exists_mapM {ε : Type} {function : α → Except ε β} {members : List α}
    (each : ∀ member ∈ members, ∃ result, function member = .ok result) :
    ∃ results, members.mapM function = .ok results := by
  induction members with
  | nil => exact ⟨[], rfl⟩
  | cons member members hypothesis =>
      rcases each member List.mem_cons_self with ⟨result, isResult⟩
      rcases hypothesis fun other listed => each other (List.mem_cons_of_mem _ listed) with
        ⟨results, read⟩
      refine ⟨result :: results, ?_⟩
      rw [List.mapM_cons, isResult, read]
      rfl

end Outcome

/-- A computation that fails does so for a reason of one kind. -/
def FailsAs (category : Fault.Category) (outcome : Except Fault α) : Prop :=
  ∀ fault, outcome = .error fault → fault.category = category

namespace FailsAs

variable {category : Fault.Category}

theorem ok (value : α) : FailsAs category (.ok value) := by
  intro fault failed
  cases failed

theorem error {fault : Fault} (kind : fault.category = category) :
    FailsAs category (.error fault : Except Fault α) := by
  intro other failed
  cases failed
  exact kind

/-- Where both steps fail with one kind of fault only, both in turn do. -/
theorem bind {first : Except Fault α} {next : α → Except Fault β} (firstFails : FailsAs category first)
    (nextFails : ∀ value, FailsAs category (next value)) : FailsAs category (first >>= next) := by
  intro fault failed
  cases first with
  | error other =>
      cases failed
      exact firstFails fault rfl
  | ok value => exact nextFails value fault failed

/-- Where a function fails with one kind of fault only, so does going through a list. -/
theorem mapM {function : α → Except Fault β} (each : ∀ member, FailsAs category (function member))
    (members : List α) : FailsAs category (members.mapM function) := by
  induction members with
  | nil => exact ok []
  | cons member members hypothesis =>
      rw [List.mapM_cons]
      exact (each member).bind fun value => hypothesis.bind fun values => ok (value :: values)

end FailsAs

end TensorLogic
