/-
Module: TensorLogic.Proofs.Contraction.Pending
Purpose: What a contraction has collected before its result is taken: the tensors that were added, and their
  labels in the order of their last mention.
Main exports: Contraction.addedIn, Contraction.Ran.collected, Contraction.Collected,
  Contraction.Ran.last_mentions
-/
import TensorLogic.Proofs.Contraction.PlainLabels
import TensorLogic.Proofs.Contraction.SingleUse

namespace TensorLogic.Contraction

/-!
A contraction that is still pending holds what the adds before have left in it, whatever else was called,
and however many of them failed: an add that fails leaves everything as it is, and one that succeeds puts
its tensor behind the others and mentions its labels.  So the order of the labels is that of their last
mention by all tensors that were added, and only that each label stands there exactly once takes labels
which can be told apart.
-/

variable {σ V L : Type} [AxisLabel L] [HasJournal σ]

/-! ## The history -/

/-- What a call has added, if it succeeded in adding something. -/
def Moment.entry? : Moment V L → Option (Entry V L)
  | ⟨.add (.ok tensor) (.ok labels), .ok _⟩ => some ⟨tensor, labels⟩
  | _ => none

/-- What a history of calls, the latest one first, has added, the earliest one first. -/
def addedIn (history : List (Moment V L)) : List (Entry V L) := history.reverse.filterMap Moment.entry?

omit [AxisLabel L] [HasJournal σ] in
/-- The latest entry that was added comes last. -/
theorem addedIn_cons (moment : Moment V L) (history : List (Moment V L)) :
    addedIn (moment :: history) = addedIn history ++ moment.entry?.toList := by
  rw [addedIn, List.reverse_cons, List.filterMap_append]
  cases isEntry : moment.entry? with
  | none => simp [isEntry, addedIn]
  | some entry => simp [isEntry, addedIn]

variable {sum : List V → Act σ V} {product : V → V → Act σ V} {history : List (Moment V L)}
  {contraction : Contraction σ V L} {state : σ}

/-- Until the result is taken, a contraction holds what was added, with its labels in the order of their last
mention. -/
theorem Ran.collected [Platform] (ran : Ran sum product history contraction state)
    (usable : contraction.consumed = false) :
    contraction.entries = addedIn history ∧
      contraction.order = touch [] ((addedIn history).flatMap Entry.labels) := by
  induction ran with
  | created => exact ⟨rfl, rfl⟩
  | elapsed _ _ hypothesis => exact hypothesis usable
  | @called history contraction state call _ hypothesis =>
      have before : contraction.consumed = false := by
        cases consumed : contraction.consumed with
        | false => rfl
        | true =>
            rw [run_of_consumed consumed call, consumed] at usable
            cases usable
      obtain ⟨entries, order⟩ := hypothesis before
      match call with
      | .get (.ok output) =>
          rw [(spent_run_get before output).consumed] at usable
          cases usable
      | .get (.error fault) =>
          rw [run_get_error before, addedIn_cons]
          exact ⟨entries.trans (List.append_nil _).symm, order.trans (by simp [Moment.entry?])⟩
      | .add tensor labels =>
          rw [addedIn_cons, Call.run]
          cases added : contraction.addGiven tensor labels with
          | error fault =>
              have nothing : Moment.entry?
                  (⟨.add tensor labels, ((throw fault : Act σ (Option (Tensor V))).runOn state).1⟩ :
                    Moment V L) = none := by
                cases tensor <;> cases labels <;> rfl
              simp only [nothing, Option.toList_none, List.append_nil]
              exact ⟨entries, order⟩
          | ok extended =>
              obtain ⟨_, entry, ⟨rfl, rfl⟩, _, rfl⟩ := addGiven_eq_ok_iff.1 added
              have something : Moment.entry?
                  (⟨.add (.ok entry.tensor) (.ok entry.labels),
                    ((pure none : Act σ (Option (Tensor V))).runOn state).1⟩ : Moment V L) =
                      some entry := rfl
              simp only [something, Option.toList_some, List.flatMap_append, List.flatMap_singleton,
                touch_append]
              exact ⟨congrArg (· ++ [entry]) entries, congrArg (touch · entry.labels) order⟩

/-! ## The order of the labels -/

omit [HasJournal σ] in
/-- Where labels are told apart by keys, each label that was mentioned stands in the order exactly once. -/
theorem countP_touch {K : Type} [DecidableEq K] {key : L → K} {labels : List L}
    (tells : Tells key (· ∈ labels)) {label : L} (mentioned : label ∈ labels) :
    (touch [] labels).countP (label == ·) = 1 := by
  have usesNone : ∀ other ∈ ([] : List L), other ∈ labels := fun _ inside => nomatch inside
  have uses : ∀ other ∈ touch [] labels, other ∈ labels := used_touch usesNone fun _ inside => inside
  have listed : key label ∈ (touch [] labels).map key :=
    (mem_keys_touch tells usesNone (fun _ inside => inside) _).2 (.inr (List.mem_map_of_mem mentioned))
  have different : ((touch [] labels).map key).Nodup :=
    nodup_keys_touch tells usesNone (fun _ inside => inside) List.nodup_nil
  calc (touch [] labels).countP (label == ·)
      = (touch [] labels).countP (fun other => key other == key label) := by
        apply List.countP_congr
        intro other inside
        exact (tells label other mentioned (uses other inside)).trans (eq_comm.trans beq_iff_eq.symm)
    _ = ((touch [] labels).map key).count (key label) := by
        rw [List.count, List.countP_map]
        rfl
    _ = 1 := List.count_eq_one_of_mem different listed

omit [HasJournal σ] in
theorem allDifferent_of_checkOutput {output : List L} (checked : contraction.checkOutput output = .ok ()) :
    allDifferent output = true := by
  unfold checkOutput at checked
  split at checked
  · cases checked
  · split at checked
    · cases checked
    · next different => simpa using different

/-- A contraction whose result was not taken, as a history of calls has left it, and what becomes of it. -/
structure Collected [Platform] (history : List (Moment V L)) (contraction : Contraction σ V L) : Prop where
  /-- All tensors are pending that were added. -/
  pending : contraction.pending = (addedIn history).length
  /-- The labels stand where they were mentioned last, and every label that was mentioned last somewhere is
  among them. -/
  places : ∃ places : List Place, places.Pairwise Earlier ∧
    List.Forall₂ (LastMention (addedIn history)) places contraction.order ∧
    ∀ place label, LastMention (addedIn history) place label → place ∈ places
  /-- No label equals a later one. -/
  different : contraction.order.Pairwise fun earlier later => (earlier == later) = false
  /-- Labels that are told apart by keys each stand there exactly once. -/
  once : ∀ {K : Type} (key : L → K), Tells key (· ∈ (addedIn history).flatMap Entry.labels) →
    ∀ label ∈ (addedIn history).flatMap Entry.labels, contraction.order.countP (label == ·) = 1
  /-- An add succeeds with a tensor and labels that fit together, and with nothing else. -/
  accepted : ∀ tensor labels, (∃ extended, contraction.addGiven tensor labels = .ok extended) ↔
    ∃ entry : Entry V L, entry.ReadFrom tensor labels ∧ entry.WellLabelled
  /-- Otherwise what it is given is of a wrong type, or does not fit together, which is a wrong value. -/
  refused : ∀ tensor labels, FailsAs .type tensor → FailsAs .type labels → ∀ fault,
    contraction.addGiven tensor labels = .error fault →
      (fault.category = .type ∧ ¬∃ entry : Entry V L, entry.ReadFrom tensor labels) ∨
        (fault.category = .value ∧
          ∃ entry : Entry V L, entry.ReadFrom tensor labels ∧ entry.Mislabelled fault)
  /-- An add that fails changes nothing. -/
  unchanged : ∀ tensor labels fault, contraction.addGiven tensor labels = .error fault →
    (Call.add tensor labels).run contraction = (throw fault, contraction)
  /-- The labels of an output that is asked for come last, in the order in which they are asked for, and the
  others stay in the order in which they are. -/
  touched : ∀ output, contraction.checkOutput output = .ok () →
    touch contraction.order output =
      contraction.order.filter (fun label => !output.elem label) ++ output
  /-- It is in this order that the tensors are contracted. -/
  contracted : ∀ output, contraction.checkOutput output = .ok () →
    contraction.contract output = (do
      let order := contraction.order.filter (fun label => !output.elem label) ++ output
      announce (.contracting contraction.pending order.length (AxisLabel.tupleText output))
      let result ← accumulate contraction.sum contraction.product order output contraction.entries
      pure result.tensor)

omit [HasJournal σ] in
theorem touch_output {output : List L} (checked : contraction.checkOutput output = .ok ()) :
    touch contraction.order output =
      contraction.order.filter (fun label => !output.elem label) ++ output := by
  rw [touch_eq, lasts_of_allDifferent (allDifferent_of_checkOutput checked)]

/-- With output labels that are not objected to, a contraction announces itself and combines its entries. -/
theorem contract_checked [Platform] {output : List L} (checked : contraction.checkOutput output = .ok ()) :
    contraction.contract output = (do
      let order := contraction.order.filter (fun label => !output.elem label) ++ output
      announce (.contracting contraction.pending order.length (AxisLabel.tupleText output))
      let result ← accumulate contraction.sum contraction.product order output contraction.entries
      pure result.tensor) := by
  rw [contract_eq, checked, ← touch_output checked]
  rfl

/-- Whatever was called before, as long as the result was not taken: as many tensors are pending as adds have
succeeded, and the labels of these are listed once each in the order of their last mention.  An add fails
exactly if what it is given is of a wrong type, or a wrong number of labels, or labels that are repeated, and
then it changes nothing.  When the result is asked for, the output labels come last and all others keep their
order. -/
theorem Ran.last_mentions [Platform] (ran : Ran sum product history contraction state)
    (usable : contraction.consumed = false) : Collected history contraction := by
  obtain ⟨entries, order⟩ := ran.collected usable
  constructor
  case pending => exact congrArg List.length entries
  case places => exact order ▸ exists_places (addedIn history)
  case different =>
    rw [order, touch_eq]
    exact pairwise_lasts id _
  case once =>
    intro K key tells label mentioned
    classical
    exact order ▸ countP_touch tells mentioned
  case accepted =>
    intro tensor labels
    constructor
    · rintro ⟨extended, added⟩
      obtain ⟨_, entry, read, fits, _⟩ := addGiven_eq_ok_iff.1 added
      exact ⟨entry, read, fits⟩
    · rintro ⟨entry, read, fits⟩
      exact ⟨_, addGiven_eq_ok_iff.2 ⟨usable, entry, read, fits, rfl⟩⟩
  case refused =>
    intro tensor labels tensorTyped labelsTyped fault failed
    rcases (addGiven_eq_error_iff usable).1 failed with rfl | ⟨_, rfl⟩ | ⟨entry, read, wrong⟩
    · exact .inl ⟨tensorTyped fault rfl, fun ⟨_, read, _⟩ => nomatch read⟩
    · exact .inl ⟨labelsTyped fault rfl, fun ⟨_, _, read⟩ => nomatch read⟩
    · exact .inr ⟨wrong.category, entry, read, wrong⟩
  case unchanged =>
    intro tensor labels fault failed
    rw [Call.run, failed]
  case touched => exact fun output => touch_output
  case contracted => exact fun output => contract_checked

/-- What is no sequence of labels is of a wrong type. -/
theorem failsAs_labels (site : Site) (given : Datum) : FailsAs .type (given.labels site) := by
  unfold Datum.labels Datum.sequence
  split
  · exact FailsAs.ok _
  · exact FailsAs.error rfl

attribute [local instance] Platform.usual in
/-- Among labels of different kinds the number 1 and the truth value are one label: it stands where it was
mentioned last, as it was written there.  The adds in between repeat a label, give too few, and give a number
for the labels; they leave no trace. -/
theorem last_mentions_mixed :
    let column : Tensor Int := .ofList [2, 1] [1, 2] rfl
    let pair (site : Site) (labels : Datum) : Call Int Label := .add (.ok column) (labels.labels site)
    let first := pair [1] (.ofList [.str "i", .int 1])
    let repeated := pair [2] (.ofList [.int 0, .bool false])
    let short := pair [3] (.ofList [.str "k"])
    let unreadable := pair [4] (.int 2)
    let second := pair [5] (.ofList [.bool true, .ofList [.str "k", .int 2]])
    let nested : Label := ⟨.list (some [1, 5]) [.str "k", .int 2]⟩
    let given := (second.run (unreadable.run (short.run (repeated.run (first.run integral).2).2).2).2).2
    (∃ history state, Ran integral.sum integral.product history given state) ∧ given.consumed = false ∧
      given.pending = 2 ∧ given.order = [.str "i", ⟨.bool true⟩, nested] ∧
      given.order.countP (Label.int 1 == ·) = 1 ∧
      repeated.run given = (throw (.labelsRepeated "(0, False)"), given) ∧
      (∃ fault, fault.category = .type ∧ unreadable.run given = (throw fault, given)) ∧
      touch given.order [.str "i"] = [⟨.bool true⟩, nested, .str "i"] := by
  intro column pair first repeated short unreadable second nested given
  have ran : Ran integral.sum integral.product _ given #[] :=
    .called second (.called unreadable (.called short (.called repeated (.called first (.created #[])))))
  have collected := ran.last_mentions rfl
  -- Only the nested label has a mark, so that every site may be said to have made it.
  let made : Site → Label.Key := fun _ => nested.key
  have members : ∀ datum ∈ [Datum.str "k", .int 2], Label.Plain made datum := by
    intro datum inside
    simp only [List.mem_cons, List.not_mem_nil, or_false] at inside
    rcases inside with rfl | rfl
    · exact Label.plain_scalar nofun
    · exact Label.plain_scalar nofun
  have plain : ∀ label ∈ [Label.str "i", .int 1, ⟨.bool true⟩, nested],
      Label.Plain made label.datum := by
    intro label inside
    simp only [List.mem_cons, List.not_mem_nil, or_false] at inside
    rcases inside with rfl | rfl | rfl | rfl
    · exact Label.plain_scalar nofun
    · exact Label.plain_scalar nofun
    · exact Label.plain_scalar nofun
    · exact .tuple _ _ members fun _ _ => rfl
  have typed : ∀ fault, given.addGiven (.ok column) ((Datum.int 2).labels [4]) = .error fault →
      fault.category = .type := by
    intro fault failed
    rcases collected.refused _ _ (FailsAs.ok _) (failsAs_labels _ _) fault failed with
      ⟨kind, _⟩ | ⟨_, _, ⟨_, isRead⟩, _⟩
    · exact kind
    · cases isRead
  have ordered : given.order = [.str "i", ⟨.bool true⟩, nested] := rfl
  have touched : touch given.order [.str "i"] = [⟨.bool true⟩, nested, .str "i"] := by
    rw [collected.touched [.str "i"] rfl, ordered]
    rfl
  exact ⟨⟨_, _, ran⟩, rfl, collected.pending, ordered,
    collected.once Label.key (tells_plain plain) (.int 1) (List.mem_cons_of_mem _ List.mem_cons_self),
    collected.unchanged _ _ _ rfl, ⟨_, typed _ rfl, collected.unchanged _ _ _ rfl⟩, touched⟩

end TensorLogic.Contraction
