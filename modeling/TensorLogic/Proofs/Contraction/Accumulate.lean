/-
Module: TensorLogic.Proofs.Contraction.Accumulate
Purpose: A contraction is a first step and one more step for each further entry.
Main exports: Contraction.step, Contraction.accumulate, Contraction.contract_eq,
  Contraction.runOn_checked
-/
import TensorLogic.Contraction.Result
import TensorLogic.Proofs.Effect.Run

namespace TensorLogic.Contraction

variable [Platform] {σ V L : Type} [AxisLabel L]

/-- One step of a contraction: the next entry is arranged and multiplied with the accumulated one, and
the labels that are not needed any more are eliminated. -/
def step (sum : List V → Act σ V) (product : V → V → Act σ V) (order needed : List L)
    (accumulated next : Entry V L) : Act σ (Entry V L) := do
  let joined ← join order product accumulated (← arrange order next)
  eliminate sum needed joined

/-- Combining takes one step, which needs only the labels that come later, and goes on from there. -/
theorem combine_cons (sum : List V → Act σ V) (product : V → V → Act σ V)
    (order output : List L) (accumulated next : Entry V L) (rest : List (Entry V L)) :
    combine sum product order output accumulated (next :: rest) = (do
      let reduced ← step sum product order (neededBy rest output) accumulated next
      combine sum product order output reduced rest) := by
  unfold step
  simp only [combine, bind_assoc]

/-- The first step of a contraction: the first entry is arranged, and the labels that are not needed any
more are eliminated. -/
def firstStep (sum : List V → Act σ V) (order needed : List L) (first : Entry V L) :
    Act σ (Entry V L) := do
  eliminate sum needed (← arrange order first)

/-- The entry that is left once all entries are multiplied, from the first to the last. -/
def accumulate (sum : List V → Act σ V) (product : V → V → Act σ V)
    (order output : List L) : List (Entry V L) → Act σ (Entry V L)
  | [] => throw .contractionEmpty
  | first :: rest => do
      let start ← firstStep sum order (neededBy rest output) first
      combine sum product order output start rest

/-- The result of a contraction is the tensor of what is accumulated. -/
theorem contract_eq [HasJournal σ] (contraction : Contraction σ V L)
    (output : List L) :
    contraction.contract output = (do
      contraction.checkOutput output
      let order := touch contraction.order output
      announce (.contracting contraction.pending order.length (AxisLabel.tupleText output))
      let result ← accumulate contraction.sum contraction.product order output contraction.entries
      pure result.tensor) := by
  unfold contract
  cases contraction.entries with
  | nil => rfl
  | cons first rest => simp only [accumulate, firstStep, bind_assoc]

/-- Once the output is found to be right, what remains is to note the contraction, to accumulate the
entries, and to finish. -/
theorem runOn_checked [HasJournal σ] {α : Type} {contraction : Contraction σ V L} {output : List L}
    (isChecked : contraction.checkOutput output = .ok ()) (finish : Entry V L → Act σ α) (state : σ) :
    Act.runOn (do
        contraction.checkOutput output
        let order := touch contraction.order output
        announce (.contracting contraction.pending order.length (AxisLabel.tupleText output))
        let result ← accumulate contraction.sum contraction.product order output contraction.entries
        finish result) state =
      (accumulate contraction.sum contraction.product (touch contraction.order output) output
          contraction.entries >>= finish).runOn
        (HasJournal.note (.contracting contraction.pending (touch contraction.order output).length
          (AxisLabel.tupleText output)) state) := by
  rw [isChecked, Act.runOn_bind_ok (Act.runOn_lift _ state),
    Act.runOn_bind_ok (Act.runOn_announce _ state)]

end TensorLogic.Contraction
