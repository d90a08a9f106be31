/-
Module: TensorLogic.Proofs.Expr.Passage
Purpose: Evaluating an expression, whatever it is and however it ends, leads only to states to which the
  operations of the algebra lead.
Main exports: Contraction.keeps_contract, Expr.keeps_eval
-/
import TensorLogic.Proofs.Algebra.Passage
import TensorLogic.Proofs.Contraction.Adding
import TensorLogic.Proofs.Expr.Correspondence

namespace TensorLogic

variable {σ : Type} {passage : Passage σ}

namespace Contraction

variable {V L : Type} [AxisLabel L]

/-- Adding a tensor leaves the two operations of a contraction as they are. -/
theorem operations_of_addGiven {contraction extended : Contraction σ V L}
    {tensor : Except Fault (Tensor V)} {labels : Except Fault (List L)}
    (added : contraction.addGiven tensor labels = .ok extended) :
    extended.sum = contraction.sum ∧ extended.product = contraction.product := by
  obtain ⟨_, entry, _, _, rfl⟩ := addGiven_eq_ok_iff.1 added
  exact ⟨rfl, rfl⟩

theorem keeps_join [Platform] (order : List L) {product : V → V → Act σ V}
    (multiplies : ∀ left right, passage.Keeps (product left right)) (left right : Entry V L) :
    passage.Keeps (join order product left right) :=
  .liftBind _ fun _ => .liftBind _ fun leftTensor => .liftBind _ fun rightTensor =>
    (Passage.Keeps.map2 multiplies leftTensor rightTensor).bind fun _ => .pure _

theorem keeps_eliminate [Platform] {sum : List V → Act σ V} (adds : ∀ members, passage.Keeps (sum members))
    (needed : List L) (entry : Entry V L) : passage.Keeps (eliminate sum needed entry) := by
  unfold eliminate
  cases entry.labels.partition needed.elem with
  | mk kept eliminated =>
      dsimp only
      split
      · exact .pure entry
      · exact .liftBind _ fun _ => .liftBind _ fun tensor =>
          (Passage.Keeps.fold adds _ tensor).bind fun _ => .pure _

variable {sum : List V → Act σ V} {product : V → V → Act σ V}
  (adds : ∀ members, passage.Keeps (sum members))
  (multiplies : ∀ left right, passage.Keeps (product left right))

include adds multiplies

theorem keeps_combine [Platform] (order output : List L) (accumulated : Entry V L)
    (entries : List (Entry V L)) :
    passage.Keeps (combine sum product order output accumulated entries) := by
  induction entries generalizing accumulated with
  | nil => exact .pure accumulated
  | cons entry entries hypothesis =>
      exact .liftBind _ fun arranged => (keeps_join order multiplies accumulated arranged).bind
        fun joined => (keeps_eliminate adds _ joined).bind hypothesis

omit adds multiplies in
/-- Taking the result of a contraction leads only where its two operations and announcements lead. -/
theorem keeps_contract [Platform] [HasJournal σ]
    (notes : ∀ event state, passage.Reaches state (HasJournal.note event state))
    (contraction : Contraction σ V L)
    (adds : ∀ members, passage.Keeps (contraction.sum members))
    (multiplies : ∀ left right, passage.Keeps (contraction.product left right))
    (output : List L) : passage.Keeps (contraction.contract output) := by
  have announces : ∀ event, passage.Keeps (announce event : Act σ Unit) := fun event => notes event
  unfold contract
  refine .liftBind _ fun _ => (announces _).bind fun _ => ?_
  cases contraction.entries with
  | nil => exact .throw _
  | cons first entries =>
      exact .liftBind _ fun arranged => (keeps_eliminate adds _ arranged).bind fun start =>
        (keeps_combine adds multiplies _ output start entries).bind fun _ => .pure _

end Contraction

variable {β : Type} [HasJournal σ] {interpretation : Interpretation σ β}

variable (passage) (interpretation) in
/-- Evaluation in an algebra leads to states that may come after if its operations and announcements
do. -/
structure Interpretation.Keeps : Prop where
  note : ∀ event state, passage.Reaches state (HasJournal.note event state)
  operations : interpretation.algebra.Keeps passage

namespace Expr

variable [Platform]

theorem evalTerms_nil (environment : Environment β) (site : Site) (number : Nat)
    (contraction : Contraction σ (Value β) Label) (labels : List Datum) :
    evalTerms interpretation environment site number contraction [] labels =
      pure (contraction, []) := by
  rw [evalTerms]
  exact fun _ _ _ _ impossible => nomatch impossible

theorem evalTerms_unlabelled (environment : Environment β) (site : Site) (number : Nat)
    (contraction : Contraction σ (Value β) Label) (sources : List Expr) :
    evalTerms interpretation environment site number contraction sources [] =
      pure (contraction, []) := by
  rw [evalTerms]
  exact fun _ _ _ _ _ impossible => nomatch impossible

/-- A contraction to which terms were added still has its two operations. -/
theorem operations_of_evalTerms {environment : Environment β} {site : Site} {number : Nat}
    {contraction : Contraction σ (Value β) Label} {sources : List Expr} {labels : List Datum}
    {state : σ} {result : Contraction σ (Value β) Label × List (Value β × List Label)}
    (found : ((evalTerms interpretation environment site number contraction sources
      labels).runOn state).1 = .ok result) :
    result.1.sum = contraction.sum ∧ result.1.product = contraction.product := by
  induction sources generalizing number contraction labels state result with
  | nil =>
      rw [evalTerms_nil] at found
      cases found
      exact ⟨rfl, rfl⟩
  | cons source sources hypothesis =>
      cases labels with
      | nil =>
          rw [evalTerms_unlabelled] at found
          cases found
          exact ⟨rfl, rfl⟩
      | cons given labels =>
          rw [evalTerms] at found
          obtain ⟨term, _, foundTerm⟩ := Act.ok_of_bind found
          obtain ⟨named, _, foundLabels⟩ := Act.ok_of_bind foundTerm
          obtain ⟨extended, isExtended, foundExtended⟩ := Act.ok_of_bind foundLabels
          obtain ⟨rest, isRest, foundRest⟩ := Act.ok_of_bind foundExtended
          cases foundRest
          obtain ⟨sameSum, sameProduct⟩ := hypothesis isRest
          obtain ⟨asSum, asProduct⟩ := Contraction.operations_of_addGiven isExtended
          exact ⟨sameSum.trans asSum, sameProduct.trans asProduct⟩

mutual

/-- Evaluating an expression leads only where the operations of the algebra and announcements lead. -/
theorem keeps_eval (keeps : interpretation.Keeps passage) (environment : Environment β)
    (site : Site) (expression : Expr) :
    passage.Keeps (expression.eval interpretation environment site) := by
  match expression with
  | .top | .bot | .lift _ | .datum _ =>
      rw [eval]
      exact .pure _
  | .leaf name =>
      rw [eval]
      exact .lift _
  | .ref name =>
      rw [eval]
      split
      · exact .pure _
      · exact .throw _
  | .letIn name value body =>
      rw [eval]
      exact (keeps_eval keeps environment _ value).bind fun bound =>
        keeps_eval keeps ((name, bound) :: environment) _ body
  | .list items =>
      rw [eval]
      exact (keeps_evalAll keeps environment site 0 items).bind fun _ => .pure _
  | .data shape values =>
      rw [eval]
      exact .liftBind _ fun _ => .pure _
  | .tensor shape elems =>
      rw [eval]
      exact (keeps_evalAll keeps environment site 0 elems).bind fun elements =>
        .liftBind _ fun _ => .liftBind _ fun _ => .pure _
  | .constant shape value =>
      rw [eval]
      exact (keeps_eval keeps environment _ value).bind fun element =>
        .liftBind _ fun _ => .liftBind _ fun _ => .pure _
  | .cell source index =>
      rw [eval]
      exact (keeps_eval keeps environment _ source).bind fun _ => .liftBind _ fun _ => .pure _
  | .item source =>
      rw [eval]
      exact (keeps_eval keeps environment _ source).bind fun _ => .liftBind _ fun _ => .lift _
  | .reshape source shape axes =>
      rw [eval]
      exact (keeps_eval keeps environment _ source).bind fun _ => .liftBind _ fun _ =>
        .liftBind _ fun _ => .pure _
  | .diagonal source axes default =>
      rw [eval]
      exact (keeps_eval keeps environment _ source).bind fun _ => .liftBind _ fun _ =>
        (keeps_eval keeps environment _ default).bind fun _ => .liftBind _ fun _ => .pure _
  | .unstack source =>
      rw [eval]
      exact (keeps_eval keeps environment _ source).bind fun _ => .liftBind _ fun _ =>
        .liftBind _ fun _ => .pure _
  | .stack sources shape =>
      rw [eval]
      exact (keeps_eval keeps environment _ sources).bind fun _ => .liftBind _ fun _ =>
        .liftBind _ fun _ => .liftBind _ fun _ => .pure _
  | .concat left right =>
      rw [eval]
      exact (keeps_eval keeps environment _ left).bind fun _ =>
        (keeps_eval keeps environment _ right).bind fun _ => .liftBind _ fun _ => .liftBind _ fun _ =>
          .liftBind _ fun _ => .pure _
  | .contract kind sources labels output =>
      rw [eval]
      refine (keeps_evalTerms keeps environment site 0 _ sources labels).bindOf
        fun state result found => .liftBind _ fun asked => ?_
      obtain ⟨sameSum, sameProduct⟩ := operations_of_evalTerms found
      refine (Contraction.keeps_contract keeps.note result.1 ?_ ?_ asked).bind fun _ => .pure _
      · rw [sameSum]
        cases kind with
        | logical => exact keeps.operations.aggregate .any
        | linear => exact keeps.operations.aggregate .parity
      · rw [sameProduct]
        exact keeps.operations.connective .conj
  | .fold operation source count =>
      rw [eval]
      exact (keeps_eval keeps environment _ source).bind fun _ => .liftBind _ fun tensor =>
        .liftBind _ fun axes => (keeps.operations.foldTensor operation tensor axes).bind fun _ =>
          .pure _
  | .neg operand =>
      rw [eval]
      exact (keeps_eval keeps environment _ operand).bind keeps.operations.neg
  | .connective operation left right =>
      rw [eval]
      exact (keeps_eval keeps environment _ left).bind fun first =>
        (keeps_eval keeps environment _ right).bind fun second =>
          keeps.operations.connective operation first second
  | .aggregate operation elements =>
      rw [eval]
      exact (keeps_eval keeps environment _ elements).bind fun _ => .liftBind _ fun members =>
        keeps.operations.aggregate operation members
  | .compare comparison lefts rights =>
      rw [eval]
      exact (keeps_eval keeps environment _ lefts).bind fun first =>
        (keeps_eval keeps environment _ rights).bind fun second => .liftBind _ fun firsts =>
          .liftBind _ fun seconds => keeps.operations.compare comparison firsts seconds
  | .negTensor source =>
      rw [eval]
      exact (keeps_eval keeps environment _ source).bind fun _ => .liftBind _ fun tensor =>
        (keeps.operations.negTensor tensor).bind fun _ => .pure _
  | .liftTensor source =>
      rw [eval]
      exact (keeps_eval keeps environment _ source).bind fun _ => .liftBind _ fun _ => .pure _
  | .connectiveTensor operation left right =>
      rw [eval]
      exact (keeps_eval keeps environment _ left).bind fun _ =>
        (keeps_eval keeps environment _ right).bind fun _ => .liftBind _ fun first =>
          .liftBind _ fun second =>
            (keeps.operations.connectiveTensor operation first second).bind fun _ => .pure _
  | .misapplied operands =>
      rw [eval]
      exact (keeps_evalAll keeps environment site 0 operands).bind fun _ => .throw _

theorem keeps_evalAll (keeps : interpretation.Keeps passage) (environment : Environment β)
    (site : Site) (number : Nat) (items : List Expr) :
    passage.Keeps (evalAll interpretation environment site number items) := by
  match items with
  | [] =>
      rw [evalAll]
      exact .pure _
  | head :: tail =>
      rw [evalAll]
      exact (keeps_eval keeps environment _ head).bind fun _ =>
        (keeps_evalAll keeps environment site (number + 1) tail).bind fun _ => .pure _

theorem keeps_evalTerms (keeps : interpretation.Keeps passage) (environment : Environment β)
    (site : Site) (number : Nat) (contraction : Contraction σ (Value β) Label) (sources : List Expr)
    (labels : List Datum) :
    passage.Keeps (evalTerms interpretation environment site number contraction sources labels) := by
  match sources, labels with
  | source :: sources, given :: labels =>
      rw [evalTerms]
      exact (keeps_eval keeps environment _ source).bind fun term => .liftBind _ fun named =>
        .liftBind _ fun extended =>
          (keeps_evalTerms keeps environment site (number + 1) extended sources labels).bind fun _ =>
            .pure _
  | [], labels =>
      rw [evalTerms_nil]
      exact .pure _
  | _ :: _, [] =>
      rw [evalTerms_unlabelled]
      exact .pure _

end

end Expr

end TensorLogic
