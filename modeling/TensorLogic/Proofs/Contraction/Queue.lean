/-
Module: TensorLogic.Proofs.Contraction.Queue
Purpose: A contraction as a queue that is worked off, where all that is taken for granted on the way is
  checked.
Main exports: Contraction.Waiting, Contraction.workOff, Contraction.guarded, Contraction.guarded_eq
-/
import TensorLogic.Proofs.Contraction.Accumulate

namespace TensorLogic.Contraction

/-!
The entries wait in a queue, and behind them the output labels, which come without a tensor.  The first
entry is arranged; then, as long as more than two wait, the first two are replaced by their product.  Some
things are taken for granted on the way: that whatever is rearranged, multiplied or summed over holds a
tensor, that the labels left in the end are those of the output, and that behind them only the output
waits.  Here each of these is checked, and an alarm is raised where it does not hold.
-/

variable {σ V L : Type}

/-- What waits in the queue: some labels, and the tensor of an entry. -/
structure Waiting (V L : Type) where
  tensor : Option (Tensor V)
  labels : List L

/-- An entry that waits. -/
def Entry.waiting (entry : Entry V L) : Waiting V L := ⟨some entry.tensor, entry.labels⟩

/-- The output labels, which wait behind all entries. -/
def Waiting.asked (labels : List L) : Waiting V L := ⟨none, labels⟩

variable [AxisLabel L]

section

variable (alarm : Fault) (sum : List V → Act σ V) (product : V → V → Act σ V) (order output : List L)

/-- What waits has to be an entry. -/
def Waiting.held (waiting : Waiting V L) : Except Fault (Entry V L) :=
  match waiting.tensor with
  | some tensor => .ok ⟨tensor, waiting.labels⟩
  | none => .error alarm

/-- Arrange what waits.  Only what has to be moved needs a tensor. -/
def Waiting.arranged [Platform] (waiting : Waiting V L) : Except Fault (Waiting V L) :=
  if ordered order waiting.labels == waiting.labels then .ok waiting
  else do pure (← arrange order (← waiting.held alarm)).waiting

/-- Multiply what waits. -/
def Waiting.joined [Platform] (left right : Waiting V L) : Act σ (Waiting V L) := do
  let first ← left.held alarm
  let second ← right.held alarm
  pure (← join order product first second).waiting

/-- Eliminate the labels that nothing in the queue refers to.  Where there are none, no tensor is
needed. -/
def Waiting.reduced [Platform] (queue : List (Waiting V L)) (waiting : Waiting V L) : Act σ (Waiting V L) :=
  let needed := queue.flatMap Waiting.labels
  if waiting.labels.all needed.elem then pure waiting
  else do pure (← eliminate sum needed (← waiting.held alarm)).waiting

/-- Work off the queue behind what was accumulated. -/
def workOff [Platform] (accumulated : Waiting V L) : List (Waiting V L) → Act σ (Tensor V)
  | next :: following :: rest => do
      let joined ← accumulated.joined alarm product order (← next.arranged alarm order)
      let reduced ← joined.reduced alarm sum (following :: rest)
      workOff reduced (following :: rest)
  | [last] =>
      if accumulated.labels == output && last.tensor.isNone then
        do pure (← accumulated.held alarm).tensor
      else throw alarm
  | [] => throw alarm

end

/-- The contraction, where an alarm is raised as soon as something does not hold that is taken for
granted. -/
def guarded [Platform] [HasJournal σ] (alarm : Fault) (contraction : Contraction σ V L) (output : List L) :
    Act σ (Tensor V) := do
  checkOutput contraction output
  let order := touch contraction.order output
  announce (.contracting contraction.pending order.length (AxisLabel.tupleText output))
  match contraction.entries.map Entry.waiting ++ [Waiting.asked output] with
  | [] => throw alarm
  | first :: rest => do
      let start ← (← first.arranged alarm order).reduced alarm contraction.sum rest
      workOff alarm contraction.sum contraction.product order output start rest

section

variable (alarm : Fault) (sum : List V → Act σ V) (product : V → V → Act σ V) (order output : List L)

omit [AxisLabel L] in
@[simp]
theorem labels_waiting (entry : Entry V L) : entry.waiting.labels = entry.labels := rfl

omit [AxisLabel L] in
@[simp]
theorem held_waiting (entry : Entry V L) : entry.waiting.held alarm = .ok entry := rfl

/-- An entry in the queue is arranged as it would be by itself. -/
theorem arranged_waiting [Platform] (entry : Entry V L) :
    entry.waiting.arranged alarm order = (arrange order entry).map Entry.waiting := by
  unfold Waiting.arranged
  rw [labels_waiting, held_waiting]
  by_cases already : (ordered order entry.labels == entry.labels) = true
  · have stays : arrange order entry = .ok entry := if_pos already
    rw [if_pos already, stays]
    rfl
  · rw [if_neg already]
    change (arrange order entry >>= fun arranged => pure arranged.waiting) = _
    cases arrange order entry <;> rfl

/-- Two entries in the queue are joined as they would be by themselves. -/
theorem joined_waiting [Platform] (left right : Entry V L) :
    left.waiting.joined alarm product order right.waiting = (do
      pure (← join order product left right).waiting) := rfl

omit [AxisLabel L] in
/-- The labels that wait in the queue are those that the coming entries and the output need. -/
theorem labels_queue (rest : List (Entry V L)) :
    (rest.map Entry.waiting ++ [Waiting.asked output]).flatMap Waiting.labels = neededBy rest output := by
  rw [List.flatMap_append, List.flatMap_map, neededBy]
  exact congrArg _ (List.append_nil output)

/-- An entry is summed onto the labels that wait in the queue as onto those that are needed. -/
theorem reduced_waiting [Platform] (rest : List (Entry V L)) (entry : Entry V L) :
    entry.waiting.reduced alarm sum (rest.map Entry.waiting ++ [Waiting.asked output]) = (do
      pure (← eliminate sum (neededBy rest output) entry).waiting) := by
  unfold Waiting.reduced
  rw [labels_queue]
  by_cases needed : (entry.labels.all (neededBy rest output).elem) = true
  · have stays : eliminate sum (neededBy rest output) entry = pure entry := by
      have none : entry.labels.filter (not ∘ (neededBy rest output).elem) = [] := by
        rw [List.filter_eq_nil_iff]
        intro label inside
        simp [List.all_eq_true.1 needed label inside]
      unfold eliminate
      rw [List.partition_eq_filter_filter, none]
      rfl
    rw [stays]
    exact if_pos needed
  · exact if_neg needed

/-- A queue of entries behind an accumulated one is worked off like the entries are combined, and in the
end the labels are looked at. -/
theorem workOff_waiting [Platform] (accumulated : Entry V L) (entries : List (Entry V L)) :
    workOff alarm sum product order output accumulated.waiting
        (entries.map Entry.waiting ++ [Waiting.asked output]) = (do
      let result ← combine sum product order output accumulated entries
      if result.labels == output then pure result.tensor else throw alarm) := by
  induction entries generalizing accumulated with
  | nil =>
      change (if (accumulated.labels == output && true) = true then _ else _) = _
      rw [Bool.and_true]
      rfl
  | cons next entries hypothesis =>
      obtain ⟨following, rest, isQueue⟩ : ∃ following rest,
          entries.map Entry.waiting ++ [Waiting.asked output] = following :: rest :=
        List.exists_cons_of_ne_nil (by simp)
      have worked : workOff alarm sum product order output accumulated.waiting
          (next.waiting :: following :: rest) = (do
            let joined ← accumulated.waiting.joined alarm product order
              (← next.waiting.arranged alarm order)
            let reduced ← joined.reduced alarm sum (following :: rest)
            workOff alarm sum product order output reduced (following :: rest)) := rfl
      rw [List.map_cons, List.cons_append, isQueue, worked, ← isQueue, arranged_waiting, combine]
      cases arrange order next with
      | error fault => rfl
      | ok arranged =>
          change (accumulated.waiting.joined alarm product order arranged.waiting >>= _) = _
          simp only [joined_waiting, bind_assoc, pure_bind, reduced_waiting, hypothesis]
          rfl

/-- The whole queue is worked off like the entries are accumulated. -/
theorem workOff_queue [Platform] (first : Entry V L) (rest : List (Entry V L)) :
    (do
      let start ← (← first.waiting.arranged alarm order).reduced alarm sum
        (rest.map Entry.waiting ++ [Waiting.asked output])
      workOff alarm sum product order output start
        (rest.map Entry.waiting ++ [Waiting.asked output])) = (do
      let result ← accumulate sum product order output (first :: rest)
      if result.labels == output then pure result.tensor else throw alarm) := by
  rw [arranged_waiting, accumulate, firstStep]
  cases arrange order first with
  | error fault => rfl
  | ok arranged =>
      change (arranged.waiting.reduced alarm sum _ >>= _) = _
      simp only [bind_assoc, pure_bind, reduced_waiting, workOff_waiting]
      rfl

end

/-- With the checks, the contraction does the same, and then looks at the labels that are left. -/
theorem guarded_eq [Platform] [HasJournal σ] (alarm : Fault) {contraction : Contraction σ V L}
    (some : contraction.entries ≠ []) (output : List L) :
    contraction.guarded alarm output = (do
      contraction.checkOutput output
      let order := touch contraction.order output
      announce (.contracting contraction.pending order.length (AxisLabel.tupleText output))
      let result ← accumulate contraction.sum contraction.product order output contraction.entries
      if result.labels == output then pure result.tensor else throw alarm) := by
  obtain ⟨first, rest, isEntries⟩ := List.exists_cons_of_ne_nil some
  unfold guarded
  rw [isEntries, List.map_cons, List.cons_append]
  simp only [workOff_queue]

end TensorLogic.Contraction
