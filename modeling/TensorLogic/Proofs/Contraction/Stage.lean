/-
Module: TensorLogic.Proofs.Contraction.Stage
Purpose: The stages that a contraction goes through, and the calls that each of them is to cost.
Main exports: Contraction.carried, Contraction.spanned, Contraction.stage, Contraction.contract_eq_stage,
  Contraction.Progress, Contraction.productCost, Contraction.sumCost
-/
import Mathlib.Algebra.BigOperators.Intervals
import TensorLogic.Proofs.Contraction.Calls
import TensorLogic.Proofs.Contraction.Combine

namespace TensorLogic.Contraction

/-!
What a contraction costs is decided by the labels that it carries along.  A label is carried for as long
as some tensor that is still to come mentions it, or the output does, and not any longer.  So the
broadcast product of all tensors is never built: each step multiplies over the labels that are carried
and those of the next tensor alone.
-/

variable {σ V L K : Type}

/-! ## The labels that are carried -/

section

variable [DecidableEq K]

/-- The keys of the labels that entries mention. -/
def mentioned (key : L → K) (entries : List (Entry V L)) : Finset K :=
  (entries.flatMap (Entry.keys key)).toFinset

/-- The keys of the labels that are asked for once the first `count` entries are multiplied: by an entry
that is still to come, or by the output. -/
def awaited (key : L → K) (entries : List (Entry V L)) (output : List L) (count : Nat) : Finset K :=
  mentioned key (entries.drop count) ∪ (output.map key).toFinset

/-- The keys of the labels that are mentioned by some of the first `count` entries, and asked for after
them. -/
def carried (key : L → K) (entries : List (Entry V L)) (output : List L) (count : Nat) : Finset K :=
  mentioned key (entries.take count) ∩ awaited key entries output count

/-- The keys of the labels that a product with the entry of the given number is made over: those that are
carried until then, and those of the entry. -/
def spanned (key : L → K) (entries : List (Entry V L)) (output : List L) (number : Nat) : Finset K :=
  carried key entries output number ∪ mentioned key entries[number]?.toList

variable {key : L → K} {entries : List (Entry V L)} {output : List L} {number : Nat}

/-- A key is mentioned by some entries when it is among the keys of one of them. -/
theorem mem_mentioned {own : K} :
    own ∈ mentioned key entries ↔ ∃ entry ∈ entries, own ∈ entry.keys key := by
  simp [mentioned]

theorem mentioned_append (first second : List (Entry V L)) :
    mentioned key (first ++ second) = mentioned key first ∪ mentioned key second := by
  simp [mentioned]

/-- Of the labels that a product is made over, those are carried on that are still asked for. -/
theorem carried_succ :
    carried key entries output (number + 1) =
      spanned key entries output number ∩ awaited key entries output (number + 1) := by
  have dropped : entries.drop number = entries[number]?.toList ++ entries.drop (number + 1) := by
    rw [← List.head?_drop, ← List.take_one, ← List.drop_drop, List.take_append_drop]
  unfold spanned carried awaited
  rw [List.take_add_one, mentioned_append, dropped, mentioned_append]
  ext own
  simp only [Finset.mem_inter, Finset.mem_union]
  tauto

/-- A label of the next entry that was mentioned before is carried. -/
theorem mem_carried {entry : Entry V L} (isNext : entries[number]? = some entry) {own : K}
    (inside : own ∈ entry.keys key) (earlier : own ∈ mentioned key (entries.take number)) :
    own ∈ carried key entries output number := by
  have isHead : (entries.drop number)[0]? = some entry := by
    rw [List.getElem?_drop]
    exact isNext
  have later := mem_mentioned.2 ⟨entry, List.mem_of_getElem? isHead, inside⟩
  exact Finset.mem_inter.2 ⟨earlier, Finset.mem_union_left _ later⟩

/-- What is asked for is what the contraction takes to be needed. -/
theorem awaited_eq (count : Nat) :
    awaited key entries output count = ((neededBy (entries.drop count) output).map key).toFinset := by
  rw [keys_neededBy, List.toFinset_append]
  rfl

end

/-- An entry carries each of some keys with one of its labels, and no other keys. -/
structure Entry.Carries [DecidableEq K] (key : L → K) (entry : Entry V L) (own : Finset K) : Prop where
  different : (entry.keys key).Nodup
  exactly : (entry.keys key).toFinset = own

/-! ## Stages of a contraction -/

/-- What a step of a contraction makes of a tensor: the product with what was accumulated before, and what
is left of it once the labels that are not needed any more are eliminated. -/
structure Stage (V L : Type) where
  joined : Entry V L
  reduced : Entry V L

section

variable [Platform] [AxisLabel L] (sum : List V → Act σ V) (product : V → V → Act σ V)
  (order output : List L)

/-- The first stage: the first entry is arranged, and labels are eliminated. -/
def firstStage (needed : List L) (first : Entry V L) : Act σ (Stage V L) := do
  let arranged ← arrange order first
  pure ⟨arranged, ← eliminate sum needed arranged⟩

/-- A further stage: the next entry is multiplied with the accumulated one, and labels are eliminated. -/
def nextStage (needed : List L) (accumulated next : Entry V L) : Act σ (Stage V L) := do
  let joined ← join order product accumulated (← arrange order next)
  pure ⟨joined, ← eliminate sum needed joined⟩

/-- The stage that the entry of the given number leads to. -/
def advance (first : Entry V L) (rest : List (Entry V L)) : Nat → Act σ (Stage V L)
  | 0 => firstStage sum order (neededBy rest output) first
  | number + 1 => do
      let before ← advance first rest number
      match rest[number]? with
      | none => pure before
      | some next =>
          nextStage sum product order (neededBy (rest.drop (number + 1)) output) before.reduced next

/-- The first step is the first stage without what it was joined from. -/
theorem firstStep_eq (needed : List L) (first : Entry V L) :
    firstStep sum order needed first = (do return (← firstStage sum order needed first).reduced) := by
  simp [firstStep, firstStage]

/-- A step is a stage without what it was joined from. -/
theorem step_eq (needed : List L) (accumulated next : Entry V L) :
    step sum product order needed accumulated next = (do
      return (← nextStage sum product order needed accumulated next).reduced) := by
  simp [step, nextStage]

/-- The accumulation of entries goes through the stage of each of them. -/
theorem accumulate_eq_advance (first : Entry V L) (rest : List (Entry V L)) (number : Nat) :
    accumulate sum product order output (first :: rest) = (do
      let stage ← advance sum product order output first rest number
      combine sum product order output stage.reduced (rest.drop number)) := by
  induction number with
  | zero =>
      rw [accumulate, firstStep_eq, bind_assoc]
      rfl
  | succ number hypothesis =>
      rw [hypothesis, advance, bind_assoc]
      congr 1
      funext before
      cases isNext : rest[number]? with
      | none =>
          have done := List.drop_eq_nil_of_le (List.getElem?_eq_none_iff.1 isNext)
          rw [done, ← List.drop_drop, done]
          rfl
      | some next =>
          obtain ⟨bound, rfl⟩ := List.getElem?_eq_some_iff.1 isNext
          rw [List.drop_eq_getElem_cons bound, combine_cons, step_eq, bind_assoc]
          rfl

end

/-- The stage that a contraction comes to with the tensor of the given number. -/
def stage [Platform] [AxisLabel L] [HasJournal σ] (contraction : Contraction σ V L) (output : List L)
    (number : Nat) : Act σ (Stage V L) := do
  checkOutput contraction output
  let order := touch contraction.order output
  announce (.contracting contraction.pending order.length (AxisLabel.tupleText output))
  match contraction.entries with
  | [] => throw .contractionEmpty
  | first :: rest => advance contraction.sum contraction.product order output first rest number

/-- A contraction that keeps a record comes to a stage, and the given calls are made until then. -/
def Reaches [Platform] [AxisLabel L] [HasJournal σ] (recorded : Contraction (Recorded σ V) V L)
    (output : List L) (state : σ) (number : Nat) (stage : Stage V L) (calls : List (Invocation V)) : Prop :=
  ∃ passed, (recorded.stage output number).runOn ⟨state, []⟩ = (.ok stage, ⟨passed, calls⟩)

/-- What a contraction does from that stage on. -/
def finish [Platform] [AxisLabel L] (contraction : Contraction σ V L) (output : List L) (number : Nat)
    (stage : Stage V L) : Act σ (Tensor V) := do
  let result ← combine contraction.sum contraction.product (touch contraction.order output) output
    stage.reduced (contraction.entries.drop (number + 1))
  pure result.tensor

/-- Nothing is left to do once the last tensor is multiplied. -/
theorem finish_last [Platform] [AxisLabel L] {contraction : Contraction σ V L} (output : List L)
    {number : Nat} (isLast : contraction.entries.length ≤ number + 1) (stage : Stage V L) :
    contraction.finish output number stage = pure stage.reduced.tensor := by
  unfold finish
  rw [List.drop_eq_nil_of_le isLast]
  rfl

/-- A contraction goes through the stage of each of its tensors. -/
theorem contract_eq_stage [Platform] [AxisLabel L] [HasJournal σ] (contraction : Contraction σ V L)
    (output : List L) (number : Nat) :
    contraction.contract output = contraction.stage output number >>= contraction.finish output number := by
  rw [contract_eq]
  unfold stage finish
  cases contraction.entries with
  | nil => simp [accumulate]
  | cons first rest =>
      simp [accumulate_eq_advance contraction.sum contraction.product _ output first rest number]

/-! ## The calls that are made until a stage -/

section

variable [DecidableEq K] {default : V} {key : L → K} {dim : K → Nat} {entries : List (Entry V L)}
  {output : List L}

/-- There are as many assignments as the dimensions of the keys make. -/
theorem length_assignments (dim : K → Nat) (keys : List K) (place : K → Nat) :
    (assignments dim keys place).length = (keys.map dim).prod := by
  induction keys with
  | nil => rfl
  | cons key keys hypothesis =>
      rw [assignments, List.length_flatMap, List.map_cons, List.prod_cons, ← hypothesis, Nat.mul_comm]
      simp only [List.length_map, List.length_range, List.map_const', List.sum_replicate_nat]

/-- The number of assignments of coordinates to the labels of an entry. -/
theorem Entry.Carries.length_assignments {entry : Entry V L} {own : Finset K}
    (carries : entry.Carries key own) :
    (assignments dim (entry.keys key) origin).length = ∏ key ∈ own, dim key := by
  rw [Contraction.length_assignments, ← carries.exactly, List.prod_toFinset _ carries.different]

theorem countP_isSum_productCalls (left right joined : Entry V L) :
    (productCalls default key dim left right joined).countP Invocation.isSum = 0 := by
  simp [productCalls, Invocation.isSum]

theorem countP_isProduct_sumCalls (joined reduced : Entry V L) :
    (sumCalls default key dim joined reduced).countP Invocation.isProduct = 0 := by
  unfold sumCalls
  split <;> simp [Invocation.isProduct]

/-- A product is called for once at each assignment to the labels that are carried. -/
theorem countP_isProduct_productCalls (left right : Entry V L) {joined : Entry V L} {own : Finset K}
    (carries : joined.Carries key own) :
    (productCalls default key dim left right joined).countP Invocation.isProduct =
      ∏ key ∈ own, dim key := by
  rw [← carries.length_assignments]
  simp [productCalls, Invocation.isProduct, Function.comp_def]

/-- A sum is called for once at each assignment to the labels that stay, and never where all of them stay.
-/
theorem countP_isSum_sumCalls {joined reduced : Entry V L} {all left : Finset K}
    (joins : joined.Carries key all) (reduces : reduced.Carries key left) :
    (sumCalls default key dim joined reduced).countP Invocation.isSum =
      if all ⊆ left then 0 else ∏ key ∈ left, dim key := by
  have isNone : (eliminated key joined reduced).isEmpty = true ↔ all ⊆ left := by
    rw [← joins.exactly, ← reduces.exactly]
    simp [eliminated, Finset.subset_iff]
  simp only [sumCalls, isNone]
  split
  · rfl
  · rw [← reduces.length_assignments]
    simp [Invocation.isSum, Function.comp_def]

/-- How often the product is called for the first `count` entries: for each of them but the first one, once
for each assignment of coordinates to the labels that the product is made over. -/
def productCost (key : L → K) (dim : K → Nat) (entries : List (Entry V L)) (output : List L)
    (count : Nat) : Nat :=
  ∑ number ∈ Finset.Ico 1 count, ∏ own ∈ spanned key entries output number, dim own

/-- How often the sum is called for the first `count` entries: for each of them where a label is eliminated,
once for each assignment of coordinates to the labels that are carried on. -/
def sumCost (key : L → K) (dim : K → Nat) (entries : List (Entry V L)) (output : List L)
    (count : Nat) : Nat :=
  ∑ number ∈ Finset.range count,
    if spanned key entries output number ⊆ carried key entries output (number + 1) then 0
    else ∏ own ∈ carried key entries output (number + 1), dim own

/-- A contraction makes progress from stage to stage, all of which are reached.  The product of a stage is
over the labels that are carried until then and those of its tensor, and only labels that are still asked
for are left of it.  The calls of a stage follow those of all stages before: first the calls for the
product, which the first tensor needs none of, and then the calls for the elimination. -/
inductive Progress (reached : Nat → Stage V L → List (Invocation V) → Prop) (default : V) (key : L → K)
    (dim : K → Nat) (entries : List (Entry V L)) (output : List L) :
    Nat → Stage V L → List (Invocation V) → Prop where
  | first {stage : Stage V L}
      (reaches : reached 0 stage (sumCalls default key dim stage.joined stage.reduced))
      (joins : stage.joined.Carries key (spanned key entries output 0))
      (reduces : stage.reduced.Carries key (carried key entries output 1)) :
      Progress reached default key dim entries output 0 stage
        (sumCalls default key dim stage.joined stage.reduced)
  | next {number : Nat} {before stage : Stage V L} {earlier : List (Invocation V)} {entry : Entry V L}
      (progress : Progress reached default key dim entries output number before earlier)
      (isNext : entries[number + 1]? = some entry)
      (reaches : reached (number + 1) stage
        (earlier ++ (productCalls default key dim before.reduced entry stage.joined ++
          sumCalls default key dim stage.joined stage.reduced)))
      (joins : stage.joined.Carries key (spanned key entries output (number + 1)))
      (reduces : stage.reduced.Carries key (carried key entries output (number + 2))) :
      Progress reached default key dim entries output (number + 1) stage
        (earlier ++ (productCalls default key dim before.reduced entry stage.joined ++
          sumCalls default key dim stage.joined stage.reduced))

namespace Progress

variable {reached : Nat → Stage V L → List (Invocation V) → Prop} {number : Nat} {stage : Stage V L}
  {calls : List (Invocation V)}

/-- Where a contraction has come to is a stage that is reached. -/
theorem reaches (progress : Progress reached default key dim entries output number stage calls) :
    reached number stage calls := by
  cases progress with
  | first reaches => exact reaches
  | next _ _ reaches => exact reaches

/-- What a stage hands on carries the labels that are still needed. -/
theorem reduces (progress : Progress reached default key dim entries output number stage calls) :
    stage.reduced.Carries key (carried key entries output (number + 1)) := by
  cases progress with
  | first _ _ reduces => exact reduces
  | next _ _ _ _ reduces => exact reduces

theorem mono (progress : Progress reached default key dim entries output number stage calls)
    {other : Nat → Stage V L → List (Invocation V) → Prop}
    (weaker : ∀ number stage calls, reached number stage calls → other number stage calls) :
    Progress other default key dim entries output number stage calls := by
  induction progress with
  | first reaches joins reduces => exact .first (weaker _ _ _ reaches) joins reduces
  | next _ isNext reaches joins reduces hypothesis =>
      exact .next hypothesis isNext (weaker _ _ _ reaches) joins reduces

/-- The calls so far are as many products as the closed form says. -/
theorem countP_isProduct (progress : Progress reached default key dim entries output number stage calls) :
    calls.countP Invocation.isProduct = productCost key dim entries output (number + 1) := by
  induction progress with
  | first => simp [countP_isProduct_sumCalls, productCost]
  | next _ _ _ joins _ hypothesis =>
      rw [List.countP_append, List.countP_append, hypothesis, countP_isProduct_productCalls _ _ joins,
        countP_isProduct_sumCalls, add_zero]
      exact (Finset.sum_Ico_succ_top (Nat.le_add_left 1 _) _).symm

/-- The calls so far are as many sums as the closed form says. -/
theorem countP_isSum (progress : Progress reached default key dim entries output number stage calls) :
    calls.countP Invocation.isSum = sumCost key dim entries output (number + 1) := by
  induction progress with
  | first _ joins reduces => rw [countP_isSum_sumCalls joins reduces, sumCost, Finset.sum_range_one]
  | next _ _ _ joins reduces hypothesis =>
      rw [List.countP_append, List.countP_append, hypothesis, countP_isSum_productCalls,
        countP_isSum_sumCalls joins reduces, Nat.zero_add]
      exact (Finset.sum_range_succ _ _).symm

end Progress

end

end TensorLogic.Contraction
