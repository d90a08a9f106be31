/-
Module: TensorLogic.Proofs.Contraction.Adding
Purpose: When a tensor can be added to a contraction, what an add changes, and why it fails otherwise.
Main exports: Contraction.Entry.WellLabelled, Contraction.Entry.Mislabelled, Contraction.extend,
  Contraction.add_eq_ok_iff, Contraction.addGiven_eq_ok_iff, Contraction.addGiven_eq_error_iff
-/
import TensorLogic.Proofs.Contraction.Mention
import TensorLogic.Proofs.Effect.Outcome

namespace TensorLogic.Contraction

/-!
An add is taken apart here once, into all that it can come to: the contraction was consumed, what is given is
no tensor or no labels, both do not fit together, or there is one more entry.
-/

variable {σ V L : Type} [AxisLabel L]

/-! ## What is given -/

/-- A tensor and labels that fit together: there is a label for each axis, and no label equals a later one. -/
structure Entry.WellLabelled (entry : Entry V L) : Prop where
  counted : entry.labels.length = entry.tensor.order
  different : entry.labels.Pairwise fun earlier later => (earlier == later) = false

/-- What is wrong with a tensor and labels that do not fit together.  The labels are counted first. -/
inductive Entry.Mislabelled (entry : Entry V L) : Fault → Prop where
  | miscounted (different : entry.labels.length ≠ entry.tensor.order) :
      Mislabelled entry (.labelCount entry.tensor.order entry.labels.length)
  | repeated (counted : entry.labels.length = entry.tensor.order)
      (equal : ¬entry.labels.Pairwise fun earlier later => (earlier == later) = false) :
      Mislabelled entry (.labelsRepeated (AxisLabel.tupleText entry.labels))

/-- What is given to an add turns out to be a tensor and labels. -/
def Entry.ReadFrom (entry : Entry V L) (tensor : Except Fault (Tensor V)) (labels : Except Fault (List L)) :
    Prop :=
  tensor = .ok entry.tensor ∧ labels = .ok entry.labels

/-- Wrong labels are a wrong value, whichever way they are wrong. -/
theorem Entry.Mislabelled.category {entry : Entry V L} {fault : Fault} (wrong : entry.Mislabelled fault) :
    fault.category = .value := by
  cases wrong with
  | miscounted => rfl
  | repeated => rfl

/-- The labels of an entry fit its tensor or are wrong in one of the ways that are told apart. -/
theorem Entry.wellLabelled_or_mislabelled (entry : Entry V L) :
    entry.WellLabelled ∨ ∃ fault, entry.Mislabelled fault := by
  by_cases counted : entry.labels.length = entry.tensor.order
  · by_cases different : entry.labels.Pairwise fun earlier later => (earlier == later) = false
    · exact .inl ⟨counted, different⟩
    · exact .inr ⟨_, .repeated counted different⟩
  · exact .inr ⟨_, .miscounted counted⟩

/-! ## What an add comes to -/

/-- A contraction with one more entry: it is put behind the others, and its labels are mentioned. -/
def extend (contraction : Contraction σ V L) (entry : Entry V L) : Contraction σ V L where
  sum := contraction.sum
  product := contraction.product
  order := touch contraction.order entry.labels
  entries := contraction.entries ++ [entry]
  consumed := contraction.consumed

variable {contraction extended : Contraction σ V L}

omit [AxisLabel L] in
theorem checkUsable_eq_ok_iff : contraction.checkUsable = .ok () ↔ contraction.consumed = false := by
  unfold checkUsable
  cases contraction.consumed with
  | true => simp
  | false => simp

section

variable (usable : contraction.consumed = false)

include usable

/-- An entry with labels that fit is added. -/
theorem add_of_wellLabelled {entry : Entry V L} (fits : entry.WellLabelled) :
    contraction.add entry.tensor entry.labels = .ok (contraction.extend entry) := by
  have different : allDifferent entry.labels = true := allDifferent_iff.2 fits.different
  unfold add
  rw [checkUsable_eq_ok_iff.2 usable, if_neg (not_not.2 fits.counted), different, extend, usable]
  rfl

/-- An entry with wrong labels is refused with the fault that says how they are wrong. -/
theorem add_of_mislabelled {entry : Entry V L} {fault : Fault} (wrong : entry.Mislabelled fault) :
    contraction.add entry.tensor entry.labels = .error fault := by
  unfold add
  rw [checkUsable_eq_ok_iff.2 usable]
  cases wrong with
  | miscounted different =>
      rw [if_pos different]
      rfl
  | repeated counted equal =>
      have repeated := Bool.eq_false_iff.2 (mt allDifferent_iff.1 equal)
      rw [if_neg (not_not.2 counted), repeated]
      rfl

end

theorem add_eq_ok_iff {tensor : Tensor V} {labels : List L} :
    contraction.add tensor labels = .ok extended ↔
      contraction.consumed = false ∧ Entry.WellLabelled ⟨tensor, labels⟩ ∧
        extended = contraction.extend ⟨tensor, labels⟩ := by
  constructor
  · intro added
    obtain ⟨_, isUsable, _⟩ := Outcome.bind_eq_ok_iff.1 added
    have usable := checkUsable_eq_ok_iff.1 isUsable
    rcases Entry.wellLabelled_or_mislabelled ⟨tensor, labels⟩ with fits | ⟨fault, wrong⟩
    · exact ⟨usable, fits, Except.ok.inj (added.symm.trans (add_of_wellLabelled usable fits))⟩
    · cases added.symm.trans (add_of_mislabelled usable wrong)
  · rintro ⟨usable, fits, rfl⟩
    exact add_of_wellLabelled usable fits

/-- An add succeeds with a tensor and labels that fit together, before the result is taken. -/
theorem addGiven_eq_ok_iff {tensor : Except Fault (Tensor V)} {labels : Except Fault (List L)} :
    contraction.addGiven tensor labels = .ok extended ↔
      contraction.consumed = false ∧ ∃ entry : Entry V L, entry.ReadFrom tensor labels ∧ entry.WellLabelled ∧
        extended = contraction.extend entry := by
  constructor
  · intro added
    obtain ⟨_, _, rest⟩ := Outcome.bind_eq_ok_iff.1 added
    obtain ⟨given, isTensor, rest⟩ := Outcome.bind_eq_ok_iff.1 rest
    obtain ⟨named, areLabels, accepted⟩ := Outcome.bind_eq_ok_iff.1 rest
    obtain ⟨usable, fits, isExtended⟩ := add_eq_ok_iff.1 accepted
    exact ⟨usable, ⟨given, named⟩, ⟨isTensor, areLabels⟩, fits, isExtended⟩
  · rintro ⟨usable, entry, ⟨rfl, rfl⟩, fits, rfl⟩
    unfold addGiven
    rw [checkUsable_eq_ok_iff.2 usable]
    exact add_of_wellLabelled usable fits

/-- Before the result is taken, an add fails with the fault of the tensor, or of the labels, or with what is
wrong between both. -/
theorem addGiven_eq_error_iff (usable : contraction.consumed = false) {tensor : Except Fault (Tensor V)}
    {labels : Except Fault (List L)} {fault : Fault} :
    contraction.addGiven tensor labels = .error fault ↔
      tensor = .error fault ∨ (∃ given, tensor = .ok given) ∧ labels = .error fault ∨
        ∃ entry : Entry V L, entry.ReadFrom tensor labels ∧ entry.Mislabelled fault := by
  unfold addGiven
  rw [checkUsable_eq_ok_iff.2 usable]
  cases tensor with
  | error other => simp [Entry.ReadFrom, bind, Except.bind]
  | ok given =>
      cases labels with
      | error other => simp [Entry.ReadFrom, bind, Except.bind]
      | ok named =>
          change contraction.add given named = .error fault ↔ _
          constructor
          · intro failed
            refine .inr (.inr ⟨⟨given, named⟩, ⟨rfl, rfl⟩, ?_⟩)
            rcases Entry.wellLabelled_or_mislabelled ⟨given, named⟩ with fits | ⟨other, wrong⟩
            · cases failed.symm.trans (add_of_wellLabelled usable fits)
            · obtain rfl := Except.error.inj (failed.symm.trans (add_of_mislabelled usable wrong))
              exact wrong
          · rintro (impossible | ⟨_, impossible⟩ | ⟨⟨_, _⟩, ⟨⟨⟩, ⟨⟩⟩, wrong⟩)
            · cases impossible
            · cases impossible
            · exact add_of_mislabelled usable wrong

end TensorLogic.Contraction
