/-
Module: TensorLogic.Traversal
Purpose: Visiting the members of a list in order, keeping count.
Main exports: List.visit, List.visit2
-/

namespace TensorLogic

/-!
A tensor keeps as many elements as its shape says, also when the elements come out of a computation
that may fail.  So a visit returns its results together with the proof that there is one for each
member.
-/

/-- A list of a known length. -/
abbrev Listed (α : Type) (count : Nat) := { members : List α // members.length = count }

/-- Call a function on every member of a list, from the first to the last, and list the results. -/
def visit {m : Type → Type} [Monad m] {α β : Type} (function : α → m β) :
    (members : List α) → m (Listed β members.length)
  | [] => pure ⟨[], rfl⟩
  | member :: members => do
      let result ← function member
      let ⟨results, counted⟩ ← visit function members
      pure ⟨result :: results, by simp [counted]⟩

/-- Call a function on the members of two lists of the same length, pair by pair. -/
def visit2 {m : Type → Type} [Monad m] {α β γ : Type} (function : α → β → m γ) :
    (lefts : List α) → (rights : List β) → lefts.length = rights.length →
      m (Listed γ lefts.length)
  | [], [], _ => pure ⟨[], rfl⟩
  | left :: lefts, right :: rights, same => do
      let result ← function left right
      let ⟨results, counted⟩ ← visit2 function lefts rights (Nat.succ.inj same)
      pure ⟨result :: results, by simp [counted]⟩

end TensorLogic
