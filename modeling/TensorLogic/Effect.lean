/-
Module: TensorLogic.Effect
Purpose: Computations that change a state and may fail, and the events that they announce.
Main exports: Act, attempt, Event, Journal, HasJournal, announce
-/
import TensorLogic.Fault

namespace TensorLogic

/-!
An operation on a solver may fail half-way, and what it did before stays done: variables that were
allocated remain allocated.  So a failure does not undo the state, it is returned beside it.
-/

/-- A computation on a state of type `σ` that returns a value or a fault, and in both cases the
state that it leaves. -/
abbrev Act (σ α : Type) := ExceptT Fault (StateM σ) α

/-- Run a computation and return its outcome, whatever it is.  The state is the one it leaves. -/
def attempt {σ α : Type} (action : Act σ α) : Act σ (Except Fault α) :=
  ExceptT.mk do
    let outcome ← action.run
    pure (.ok outcome)

/-- What a computation announces while it runs. -/
inductive Event where
  /-- A contraction begins, with so many tensors and labels, onto the written output labels. -/
  | contracting (tensors labels : Nat) (output : String)
  /-- A formula of so many variables and clauses is handed to the search. -/
  | solving (numVars numClauses : Nat)
  /-- The search decided. -/
  | solved (satisfiable : Bool)
  /-- An enumeration reached a round number of solutions. -/
  | progress (count : Nat)
  /-- An enumeration stopped at the number of solutions it was asked for. -/
  | stopped (count : Nat)
  /-- An enumeration ended. -/
  | enumerated (count : Nat)
deriving Repr, DecidableEq

namespace Event

/-- The part of the library that an event comes from. -/
inductive Channel where
  | contract
  | solver
  | problem
deriving Repr, DecidableEq

/-- Where an event comes from. -/
def channel : Event → Channel
  | contracting .. => .contract
  | solving .. | solved _ => .solver
  | progress _ | stopped _ | enumerated _ => .problem

/-- Whether an event is of interest to a user who watches the progress, and not only to one who
looks for the cause of an error. -/
def isProgress : Event → Bool
  | progress _ | stopped _ => true
  | _ => false

/-- The wording of an event. -/
def message : Event → String
  | contracting tensors labels output =>
      s!"Contracting {tensors} tensors over {labels} labels onto {output}."
  | solving numVars numClauses =>
      s!"Solving formula with {numVars} variables and {numClauses} clauses."
  | solved true => "Formula is satisfiable."
  | solved false => "Formula is unsatisfiable."
  | progress count => s!"Found {count} solutions so far."
  | stopped count => s!"Stopped enumeration after {count} solutions."
  | enumerated count => s!"Enumeration produced {count} solutions."

end Event

/-- The events announced so far, in order. -/
abbrev Journal := Array Event

/-- A state that keeps a journal. -/
class HasJournal (σ : Type) where
  /-- The state with one more event at the end of its journal. -/
  note : Event → σ → σ

instance : HasJournal Journal := ⟨fun event journal => journal.push event⟩

/-- Announce an event. -/
def announce {σ : Type} [HasJournal σ] (event : Event) : Act σ Unit :=
  modify (HasJournal.note event)

end TensorLogic
