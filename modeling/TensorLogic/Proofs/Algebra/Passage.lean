/-
Module: TensorLogic.Proofs.Algebra.Passage
Purpose: The inherited operations of a Boolean algebra lead only to states to which the operations lead
  that they are made of.
Main exports: BoolAlgebra.Keeps, Constants.keeps_oneOf, Constants.keeps_lexLtOf
-/
import TensorLogic.Algebra.Pointwise
import TensorLogic.Proofs.Effect.Passage

namespace TensorLogic

variable {σ V : Type} {passage : Passage σ}

/-- Every operation of an algebra, on whatever elements, leads to states that may come after. -/
structure BoolAlgebra.Keeps (passage : Passage σ) (algebra : BoolAlgebra σ V) : Prop where
  neg : ∀ element, passage.Keeps (algebra.neg element)
  connective : ∀ connective left right, passage.Keeps (algebra.connective connective left right)
  aggregate : ∀ aggregate elements, passage.Keeps (algebra.aggregate aggregate elements)
  compare : ∀ comparison lefts rights, passage.Keeps (algebra.compare comparison lefts rights)

namespace Constants

variable {constants : Constants V} {neg : V → Act σ V} {conj disj xor iff : V → V → Act σ V}

section

variable (negates : ∀ element, passage.Keeps (neg element))

include negates

/-- An inherited equivalence leads only where the exclusive disjunction and the negation lead. -/
theorem keeps_iffOf (differs : ∀ left right, passage.Keeps (xor left right)) (left right : V) :
    passage.Keeps (iffOf neg xor left right) :=
  (differs left right).bind negates

theorem keeps_impOf (joins : ∀ left right, passage.Keeps (disj left right)) (left right : V) :
    passage.Keeps (impOf neg disj left right) :=
  (negates left).bind fun result => joins result right

theorem keeps_lexLeOf {lexLt : List V → List V → Act σ V}
    (compares : ∀ lefts rights, passage.Keeps (lexLt lefts rights)) (lefts rights : List V) :
    passage.Keeps (lexLeOf neg lexLt lefts rights) :=
  (compares rights lefts).bind negates

end

/-- A parity leads only where the exclusive disjunctions lead, one after the other. -/
theorem keeps_parityFrom (differs : ∀ left right, passage.Keeps (xor left right)) (result : V)
    (elements : List V) : passage.Keeps (parityFrom xor result elements) := by
  induction elements generalizing result with
  | nil => exact .pure result
  | cons element elements hypothesis => exact (differs result element).bind hypothesis

section

variable (conjoins : ∀ left right, passage.Keeps (conj left right))

include conjoins

/-- The equality of all elements leads only where its equivalences and conjunctions lead. -/
theorem keeps_allEqualOf (compares : ∀ left right, passage.Keeps (iff left right))
    (elements : List V) : passage.Keeps (allEqualOf constants conj iff elements) := by
  have folds : ∀ (first result : V) (elements : List V),
      passage.Keeps (allEqualFrom constants conj iff first result elements) := by
    intro first result elements
    induction elements generalizing result with
    | nil => exact .pure result
    | cons element elements hypothesis =>
        refine (compares first element).bind fun equal => (conjoins result equal).bind fun next => ?_
        split
        · exact .pure next
        · exact hypothesis next
  cases elements with
  | nil => exact .throw _
  | cons first elements => exact folds first constants.top elements

variable (joins : ∀ left right, passage.Keeps (disj left right))

include joins

/-- A tally leads only where its conjunctions and disjunctions lead, wherever it stops. -/
theorem keeps_tallyFrom (tally : Tally V) (elements : List V) :
    passage.Keeps (tallyFrom constants conj disj tally elements) := by
  induction elements generalizing tally with
  | nil => exact .pure _
  | cons element elements hypothesis =>
      refine (conjoins tally.seen element).bind fun both => (joins tally.many both).bind fun many => ?_
      split
      · exact .pure none
      · exact (joins tally.seen element).bind fun seen => hypothesis ⟨seen, many⟩

theorem keeps_manyOf (elements : List V) : passage.Keeps (manyOf constants conj disj elements) := by
  refine (keeps_tallyFrom conjoins joins _ elements).bind fun found => ?_
  cases found with
  | none => exact .pure _
  | some tally => exact .pure _

variable (negates : ∀ element, passage.Keeps (neg element))

include negates

theorem keeps_oneOf (elements : List V) :
    passage.Keeps (oneOf constants neg conj disj elements) := by
  refine (keeps_tallyFrom conjoins joins _ elements).bind fun found => ?_
  cases found with
  | none => exact .pure _
  | some tally => exact (negates tally.many).bind fun result => conjoins tally.seen result

/-- An inherited strict order leads only where the connectives lead that it goes through cell by cell. -/
theorem keeps_lexLtOf (compares : ∀ left right, passage.Keeps (iff left right))
    (lefts rights : List V) : passage.Keeps (lexLtOf constants neg conj disj iff lefts rights) := by
  have folds : ∀ (less equal : V) (lefts rights : List V),
      passage.Keeps (lexLtFrom constants neg conj disj iff less equal lefts rights) := by
    intro less equal lefts rights
    induction lefts generalizing less equal rights with
    | nil => exact .pure less
    | cons left lefts hypothesis =>
        cases rights with
        | nil => exact .pure less
        | cons right rights =>
            refine (negates left).bind fun notLeft => (conjoins notLeft right).bind fun onlyRight => ?_
            refine (conjoins equal onlyRight).bind fun decides => ?_
            refine (joins less decides).bind fun newLess => ?_
            refine (compares left right).bind fun same => (conjoins equal same).bind fun newEqual => ?_
            split
            · exact .pure newLess
            · exact hypothesis newLess newEqual rights
  unfold lexLtOf
  split
  · exact folds _ _ lefts rights
  · exact .throw _

end

end Constants

namespace BoolAlgebra.Keeps

variable {algebra : BoolAlgebra σ V}

theorem negTensor (keeps : algebra.Keeps passage) (tensor : Tensor V) :
    passage.Keeps (algebra.negTensor tensor) :=
  .tensorMapM keeps.neg tensor

/-- A connective cell by cell leads only where the connective leads. -/
theorem connectiveTensor (keeps : algebra.Keeps passage) (connective : Connective)
    (left right : Tensor V) : passage.Keeps (algebra.connectiveTensor connective left right) :=
  .map2 (keeps.connective connective) left right

/-- An aggregate over leading axes leads only where the aggregate leads. -/
theorem foldTensor (keeps : algebra.Keeps passage) (aggregate : Aggregate) (tensor : Tensor V)
    (count : Option Whole) : passage.Keeps (algebra.foldTensor aggregate tensor count) :=
  .fold (keeps.aggregate aggregate) _ tensor

end BoolAlgebra.Keeps

end TensorLogic
