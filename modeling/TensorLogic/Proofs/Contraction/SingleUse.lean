/-
Module: TensorLogic.Proofs.Contraction.SingleUse
Purpose: The result of a contraction is taken at most once, whether or not it could be computed.
Main exports: Contraction.Call, Contraction.Ran, Contraction.Spent, Contraction.Ran.single_use
-/
import TensorLogic.Proofs.Contraction.Verdict
import TensorLogic.Proofs.Effect.Outcome

namespace TensorLogic.Contraction

/-!
Sums and products are computations of the caller, which may fail at any time.  A history of a contraction is
any sequence of calls, with whatever comes of each.  The one call that matters in it is the first one that
asks for a result with labels that can be read: by then nothing was taken, and from then on nothing can be.
-/

variable {σ V L : Type}

/-- A call of a contraction from outside.  What it is given may turn out not to be a tensor, or not to be
labels. -/
inductive Call (V L : Type) where
  | add (tensor : Except Fault (Tensor V)) (labels : Except Fault (List L))
  | get (output : Except Fault (List L))

section

variable [Platform] [AxisLabel L] [HasJournal σ]

/-- What a call computes, and the contraction as it is afterwards.  Only a result is returned. -/
def Call.run (contraction : Contraction σ V L) :
    Call V L → Act σ (Option (Tensor V)) × Contraction σ V L
  | add tensor labels =>
      match contraction.addGiven tensor labels with
      | .ok extended => (pure none, extended)
      | .error fault => (throw fault, contraction)
  | get output =>
      let taken := contraction.take output
      (do pure (some (← taken.1)), taken.2)

/-- A call that asks for a result with labels that can be read. -/
def Call.Takes (call : Call V L) : Prop := ∃ output, call = .get (.ok output)

/-- A call and its outcome. -/
structure Moment (V L : Type) where
  call : Call V L
  outcome : Except Fault (Option (Tensor V))

/-- The histories of a contraction with a sum and a product, the latest call first, the contraction as it is
after them, and the state that the computations left.  The state may change between the calls as well. -/
inductive Ran (sum : List V → Act σ V) (product : V → V → Act σ V) :
    List (Moment V L) → Contraction σ V L → σ → Prop where
  | created (state : σ) : Ran sum product [] { sum, product } state
  | elapsed {history : List (Moment V L)} {contraction : Contraction σ V L} {state : σ} (next : σ)
      (ran : Ran sum product history contraction state) : Ran sum product history contraction next
  | called {history : List (Moment V L)} {contraction : Contraction σ V L} {state : σ}
      (call : Call V L) (ran : Ran sum product history contraction state) :
      Ran sum product
        (⟨call, ((call.run contraction).1.runOn state).1⟩ :: history)
        (call.run contraction).2 ((call.run contraction).1.runOn state).2

/-- A contraction of which nothing is left.  Every call is refused, without any effect on the contraction or
on the state. -/
structure Spent (contraction : Contraction σ V L) : Prop where
  consumed : contraction.consumed = true
  order : contraction.order = []
  pending : contraction.pending = 0
  refused : ∀ call : Call V L, call.run contraction = (throw .contractionConsumed, contraction)

variable {contraction : Contraction σ V L}

/-! ## One call -/

/-- A contraction whose result was taken answers every call with the same fault, and stays as it is. -/
theorem run_of_consumed (consumed : contraction.consumed = true) (call : Call V L) :
    call.run contraction = (throw .contractionConsumed, contraction) := by
  cases call with
  | add tensor labels =>
      have refused : contraction.addGiven tensor labels = .error .contractionConsumed := by
        unfold addGiven checkUsable
        rw [if_pos consumed]
        rfl
      rw [Call.run, refused]
  | get output =>
      have refused : contraction.take output = (throw .contractionConsumed, contraction) := by
        unfold take
        rw [if_pos consumed]
      rw [Call.run, refused]
      rfl

/-- Adding a tensor takes nothing. -/
theorem consumed_run_add (tensor : Except Fault (Tensor V)) (labels : Except Fault (List L)) :
    ((Call.add tensor labels).run contraction).2.consumed = contraction.consumed := by
  rw [Call.run]
  cases added : contraction.addGiven tensor labels with
  | error fault => rfl
  | ok extended =>
      obtain ⟨_, entry, _, _, rfl⟩ := addGiven_eq_ok_iff.1 added
      rfl

section

variable (usable : contraction.consumed = false)

include usable

/-- Whatever comes of its computation, a result that is asked for is taken. -/
theorem spent_run_get (output : List L) : Spent ((Call.get (.ok output)).run contraction).2 := by
  have taken : ((Call.get (.ok output)).run contraction).2 = contraction.consume := by
    rw [Call.run, take, usable]
    rfl
  rw [taken]
  exact ⟨rfl, rfl, rfl, run_of_consumed rfl⟩

/-- Where the labels cannot be read, the contraction stays as it is. -/
theorem run_get_error (fault : Fault) :
    (Call.get (.error fault)).run contraction = (throw fault, contraction) := by
  rw [Call.run, take, usable]
  rfl

/-- What a call does to a contraction whose result was not taken. -/
theorem spent_or_usable (call : Call V L) :
    call.Takes ∧ Spent (call.run contraction).2 ∨
      ¬call.Takes ∧ (call.run contraction).2.consumed = false := by
  match call with
  | .add tensor labels =>
      refine Or.inr ⟨fun ⟨_, impossible⟩ => (nomatch impossible), ?_⟩
      rw [consumed_run_add, usable]
  | .get (.ok labels) => exact Or.inl ⟨⟨labels, rfl⟩, spent_run_get usable labels⟩
  | .get (.error fault) =>
      refine Or.inr ⟨fun ⟨_, impossible⟩ => (nomatch impossible), ?_⟩
      rw [run_get_error usable, usable]

end

/-! ## Many calls -/

/-- What is known after some calls: either one of them took the result, and nothing is left, or none did. -/
structure TakenOnce (history : List (Moment V L)) (contraction : Contraction σ V L) : Prop where
  consumed_iff : contraction.consumed = true ↔ ∃ moment ∈ history, moment.call.Takes
  spent : contraction.consumed = true → Spent contraction
  refused : ∀ later moment earlier, history = later ++ moment :: earlier → moment.call.Takes →
    ∀ after ∈ later, after.outcome = .error .contractionConsumed

variable {sum : List V → Act σ V} {product : V → V → Act σ V} {history : List (Moment V L)}
  {state : σ}

/-- A call after one that took the result adds a refusal to the history. -/
theorem TakenOnce.called_spent (once : TakenOnce history contraction)
    (consumed : contraction.consumed = true) (call : Call V L) (state : σ) :
    TakenOnce (⟨call, ((call.run contraction).1.runOn state).1⟩ :: history)
      (call.run contraction).2 := by
  rw [run_of_consumed consumed call]
  obtain ⟨taking, inside, takes⟩ := once.consumed_iff.1 consumed
  refine ⟨iff_of_true consumed ⟨taking, List.mem_cons_of_mem _ inside, takes⟩, once.spent, ?_⟩
  intro later moment earlier isHistory takesHere after isAfter
  cases later with
  | nil => cases isAfter
  | cons latest later =>
      obtain ⟨rfl, isRest⟩ := List.cons.inj isHistory
      rcases List.mem_cons.1 isAfter with rfl | before
      · rfl
      · exact once.refused later moment earlier isRest takesHere after before

/-- A call before which the result was not taken takes it or does not. -/
theorem TakenOnce.called_usable (once : TakenOnce history contraction)
    (usable : contraction.consumed = false) (call : Call V L) (state : σ) :
    TakenOnce (⟨call, ((call.run contraction).1.runOn state).1⟩ :: history)
      (call.run contraction).2 := by
  have noneTook : ¬∃ moment ∈ history, moment.call.Takes := fun taken =>
    Bool.false_ne_true (usable.symm.trans (once.consumed_iff.2 taken))
  have nothingLater : ∀ later moment earlier,
      ⟨call, ((call.run contraction).1.runOn state).1⟩ :: history = later ++ moment :: earlier →
        moment.call.Takes → ∀ after ∈ later, after.outcome = .error .contractionConsumed := by
    intro later moment earlier isHistory takesHere after isAfter
    cases later with
    | nil => cases isAfter
    | cons latest later =>
        obtain ⟨_, rfl⟩ := List.cons.inj isHistory
        exact absurd ⟨moment, List.mem_append_right _ List.mem_cons_self, takesHere⟩ noneTook
  rcases spent_or_usable usable call with ⟨takes, spent⟩ | ⟨takesNot, usableAfter⟩
  · exact ⟨iff_of_true spent.consumed ⟨_, List.mem_cons_self, takes⟩, fun _ => spent, nothingLater⟩
  · have notConsumed : ¬(call.run contraction).2.consumed = true := by
      rw [usableAfter]
      exact Bool.false_ne_true
    refine ⟨iff_of_false notConsumed ?_, fun consumed => absurd consumed notConsumed, nothingLater⟩
    rintro ⟨moment, inside, takesHere⟩
    rcases List.mem_cons.1 inside with rfl | before
    · exact takesNot takesHere
    · exact noneTook ⟨moment, before, takesHere⟩

/-- In every history the result was taken at most once, and the contraction is consumed exactly from there
on. -/
theorem Ran.takenOnce (ran : Ran sum product history contraction state) :
    TakenOnce history contraction := by
  induction ran with
  | created =>
      refine ⟨iff_of_false Bool.false_ne_true fun ⟨_, impossible, _⟩ => (nomatch impossible),
        fun impossible => (nomatch impossible), ?_⟩
      intro later moment earlier isHistory
      simp at isHistory
  | elapsed _ _ hypothesis => exact hypothesis
  | @called history contraction state call _ hypothesis =>
      cases consumed : contraction.consumed with
      | true => exact hypothesis.called_spent consumed call state
      | false => exact hypothesis.called_usable consumed call state

/-- The result of a contraction is taken at most once, by the first call that asks for it with labels that can
be read.  Whatever comes of that call, be it that there is no tensor, that an output label is unknown or asked
for twice, that dimensions disagree, or that a sum or a product fails in the middle, nothing is left afterwards,
and every later call is refused and changes nothing.  Only a call whose labels cannot be read fails and leaves
the contraction as it was. -/
theorem Ran.single_use (ran : Ran sum product history contraction state) :
    TakenOnce history contraction ∧
      (contraction.consumed = false →
        (∀ output, Spent ((Call.get (.ok output)).run contraction).2) ∧
          ∀ fault, (Call.get (.error fault)).run contraction = (throw fault, contraction)) :=
  ⟨ran.takenOnce, fun usable => ⟨spent_run_get usable, run_get_error usable⟩⟩

end

attribute [local instance] Platform.usual in
/-- A contraction whose sum fails is consumed by the call that it fails in. -/
theorem single_use_of_failing_sum :
    let fails : List Int → Act Journal Int := fun _ => throw .wrongType
    let product : Int → Int → Act Journal Int := fun first second => pure (first * second)
    let vector : Call Int Label := .add (.ok (.ofList [2] [1, 2] rfl)) (.ok [.int 0])
    let given : Contraction Journal Int Label := (vector.run { sum := fails, product }).2
    let total := (Call.get (.ok [])).run given
    (∃ history, Ran fails product history given #[]) ∧ given.consumed = false ∧
      (total.1.runOn #[]).1 = .error .wrongType ∧ Spent total.2 := by
  intro fails product vector given total
  have ran : Ran fails product _ given #[] := .called vector (.created #[])
  exact ⟨⟨_, ran⟩, rfl, rfl, (ran.single_use.2 rfl).1 []⟩

attribute [local instance] Platform.usual in
/-- A number is no sequence of labels: asking for the labels 5 fails, but does not take the result, which can
still be asked for afterwards. -/
theorem get_of_number_takes_nothing :
    let vector : Tensor Int := .ofList [2] [1, 2] rfl
    let given : Contraction Journal Int Label :=
      ((Call.add (.ok vector) (.ok [Label.int 0])).run integral).2
    let asked := (Call.get ((Datum.int 5).labels [1])).run given
    (∃ history, Ran integral.sum integral.product history given #[]) ∧ given.consumed = false ∧
      (asked.1.runOn #[]).1 = .error .wrongType ∧ asked.2.consumed = false ∧ asked.2.pending = 1 ∧
      (((Call.get (.ok [Label.int 0])).run asked.2).1.runOn #[]).1 = .ok (some vector) := by
  intro vector given asked
  have ran : Ran integral.sum integral.product _ given #[] :=
    .called (.add (.ok vector) (.ok [Label.int 0])) (.created #[])
  exact ⟨⟨_, ran⟩, rfl, rfl, rfl, rfl, rfl⟩

end TensorLogic.Contraction
