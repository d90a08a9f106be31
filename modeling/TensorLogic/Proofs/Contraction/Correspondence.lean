/-
Module: TensorLogic.Proofs.Contraction.Correspondence
Purpose: Contractions of related tensors with operations that treat related elements alike.
Main exports: Contraction.Entry.Related, Contraction.Alike, Bridge.Corresponds.accumulate,
  Bridge.Corresponds.contract
-/
import TensorLogic.Proofs.Contraction.Accumulate
import TensorLogic.Proofs.Tensor.Related

namespace TensorLogic

variable {σ τ α β L : Type}

namespace Contraction

/-- Two tensors with the same labels are related. -/
structure Entry.Related (Relation : α → β → Prop) (left : Entry α L) (right : Entry β L) : Prop where
  labels_eq : left.labels = right.labels
  tensors : Tensor.Related Relation left.tensor right.tensor

variable {Relation : α → β → Prop}

/-- Related entries are related by anything weaker. -/
theorem Entry.Related.mono {Weaker : α → β → Prop} {left : Entry α L} {right : Entry β L}
    (related : Entry.Related Relation left right)
    (weaker : ∀ first second, Relation first second → Weaker first second) :
    Entry.Related Weaker left right :=
  ⟨related.labels_eq, related.tensors.mono weaker⟩

theorem flatMap_eq_of_related {γ : Type} {function : Entry α L → List γ} {other : Entry β L → List γ}
    {lefts : List (Entry α L)} {rights : List (Entry β L)}
    (related : List.Forall₂ (Entry.Related Relation) lefts rights)
    (same : ∀ left right, Entry.Related Relation left right → function left = other right) :
    lefts.flatMap function = rights.flatMap other := by
  induction related with
  | nil => rfl
  | cons head _ hypothesis =>
      rw [List.flatMap_cons, List.flatMap_cons, same _ _ head, hypothesis]

/-- Related entries need the same labels. -/
theorem neededBy_eq {lefts : List (Entry α L)} {rights : List (Entry β L)}
    (related : List.Forall₂ (Entry.Related Relation) lefts rights) (output : List L) :
    neededBy lefts output = neededBy rights output :=
  congrArg (· ++ output) (flatMap_eq_of_related related fun _ _ alike => alike.labels_eq)

/-- Two contractions of related tensors, with operations that treat related elements alike. -/
structure Alike (bridge : Bridge σ τ) (Element : σ × τ → α → β → Prop) (states : σ × τ)
    (left : Contraction σ α L) (right : Contraction τ β L) : Prop where
  sum : ∀ states lefts rights, List.Forall₂ (Element states) lefts rights →
    bridge.Corresponds states (left.sum lefts) (right.sum rights) Element
  product : ∀ states first second third fourth, Element states first second →
    Element states third fourth →
      bridge.Corresponds states (left.product first third) (right.product second fourth) Element
  order_eq : left.order = right.order
  entries : List.Forall₂ (Entry.Related (Element states)) left.entries right.entries
  consumed_eq : left.consumed = right.consumed

namespace Alike

variable {bridge : Bridge σ τ} {Element : σ × τ → α → β → Prop} {states : σ × τ}
  {left : Contraction σ α L} {right : Contraction τ β L}

/-- Contractions that are alike stay alike as the states go on. -/
theorem later (stable : bridge.Stable Element) {next : σ × τ} (reached : bridge.Reaches states next)
    (alike : Alike bridge Element states left right) : Alike bridge Element next left right where
  sum := alike.sum
  product := alike.product
  order_eq := alike.order_eq
  entries := alike.entries.imp fun _ _ related => related.mono fun _ _ => stable reached
  consumed_eq := alike.consumed_eq

theorem checkUsable_eq (alike : Alike bridge Element states left right) :
    left.checkUsable = right.checkUsable := by
  unfold checkUsable
  rw [alike.consumed_eq]

end Alike

variable [AxisLabel L]

/-- Related entries have the same dimensions for their labels. -/
theorem dimensionsOf_eq {lefts : List (Entry α L)} {rights : List (Entry β L)}
    (related : List.Forall₂ (Entry.Related Relation) lefts rights) :
    dimensionsOf lefts = dimensionsOf rights := by
  have same : (lefts.flatMap fun entry => entry.labels.zip entry.tensor.shape) =
      rights.flatMap fun entry => entry.labels.zip entry.tensor.shape := by
    apply flatMap_eq_of_related related
    intro left right alike
    rw [alike.labels_eq, alike.tensors.shape_eq]
  unfold dimensionsOf
  rw [same]

/-- Spreading related entries onto labels has the same outcome, in related tensors. -/
theorem spread_related [Platform] {left : Entry α L} {right : Entry β L}
    (related : Entry.Related Relation left right) (labels : List L) (dimensions : Dimensions L) :
    SameOutcome (Tensor.Related Relation) (spread left labels dimensions)
      (spread right labels dimensions) := by
  unfold spread
  rw [related.labels_eq]
  exact related.tensors.reshape _ _

/-- Arranging related entries has the same outcome, in related entries. -/
theorem arrange_related [Platform] (order : List L) {left : Entry α L} {right : Entry β L}
    (related : Entry.Related Relation left right) :
    SameOutcome (Entry.Related Relation) (arrange order left) (arrange order right) := by
  have sameDimensions : dimensionsOf [left] = dimensionsOf [right] :=
    dimensionsOf_eq (.cons related .nil)
  unfold arrange
  rw [related.labels_eq, sameDimensions]
  by_cases arranged : (ordered order right.labels == right.labels) = true
  · rw [if_pos arranged, if_pos arranged]
    exact .ok related
  · rw [if_neg arranged, if_neg arranged]
    refine .bindSame _ fun dimensions => ?_
    refine (spread_related related _ dimensions).bind fun first second alike => ?_
    exact .ok ⟨rfl, alike⟩

namespace Alike

variable {bridge : Bridge σ τ} {Element : σ × τ → α → β → Prop} {states : σ × τ}
  {left : Contraction σ α L} {right : Contraction τ β L}

/-- Contractions that are alike object to the same output labels. -/
theorem checkOutput_eq (alike : Alike bridge Element states left right) (output : List L) :
    left.checkOutput output = right.checkOutput output := by
  have sameEmpty : left.entries.isEmpty = right.entries.isEmpty := by
    rw [Bool.eq_iff_iff, List.isEmpty_iff_length_eq_zero, List.isEmpty_iff_length_eq_zero,
      alike.entries.length_eq]
  unfold checkOutput
  rw [sameEmpty, alike.order_eq]

/-- Adding related tensors to contractions that are alike has the same outcome. -/
theorem add (alike : Alike bridge Element states left right) {tensor : Tensor α} {other : Tensor β}
    (related : Tensor.Related (Element states) tensor other) (labels : List L) :
    SameOutcome (Alike bridge Element states) (left.add tensor labels) (right.add other labels) := by
  have sameOrder : tensor.order = other.order := by
    rw [Tensor.order, Tensor.order, related.shape_eq]
  unfold Contraction.add
  rw [alike.checkUsable_eq, sameOrder]
  refine .bindSame _ fun _ => ?_
  split
  · exact .error _
  · split
    · exact .error _
    · refine .ok ⟨alike.sum, alike.product, ?_, ?_, alike.consumed_eq⟩
      · rw [alike.order_eq]
      · exact List.rel_append alike.entries (.cons ⟨rfl, related⟩ .nil)

/-- What is given to be added may fail to be read as well, and does so on both sides. -/
theorem addGiven (alike : Alike bridge Element states left right) {tensor : Except Fault (Tensor α)}
    {other : Except Fault (Tensor β)}
    (related : SameOutcome (Tensor.Related (Element states)) tensor other)
    (labels : Except Fault (List L)) :
    SameOutcome (Alike bridge Element states) (left.addGiven tensor labels)
      (right.addGiven other labels) := by
  unfold Contraction.addGiven
  rw [alike.checkUsable_eq]
  refine .bindSame _ fun _ => ?_
  refine related.bind fun first second tensors => ?_
  exact .bindSame _ fun given => alike.add tensors given

end Alike

end Contraction

namespace Bridge.Corresponds

open Contraction

variable [AxisLabel L] {bridge : Bridge σ τ} {Element : σ × τ → α → β → Prop} {states : σ × τ}

/-- Joining related entries corresponds where the products do. -/
theorem join [Platform] {product : α → α → Act σ α} {other : β → β → Act τ β} (order : List L)
    (stable : bridge.Stable Element)
    (alike : ∀ states first second third fourth, Element states first second →
      Element states third fourth →
        bridge.Corresponds states (product first third) (other second fourth) Element)
    {left leftOther : Entry α L} {right rightOther : Entry β L}
    (related : Entry.Related (Element states) left right)
    (relatedOther : Entry.Related (Element states) leftOther rightOther) :
    bridge.Corresponds states (join order product left leftOther)
      (Contraction.join order other right rightOther)
      fun states => Entry.Related (Element states) := by
  have sameDimensions : dimensionsOf [left, leftOther] = dimensionsOf [right, rightOther] :=
    dimensionsOf_eq (.cons related (.cons relatedOther .nil))
  unfold Contraction.join
  rw [related.labels_eq, relatedOther.labels_eq, sameDimensions]
  refine liftBindSame _ fun dimensions => ?_
  refine liftBind (spread_related related _ dimensions) fun first second spreadAlike => ?_
  refine liftBind (spread_related relatedOther _ dimensions) fun third fourth otherAlike => ?_
  refine (map2 stable stable stable alike spreadAlike otherAlike).bind
    fun middle result otherResult _ _ found => ?_
  exact pure ⟨rfl, found⟩

/-- Summing related entries onto the labels that are needed corresponds where the sums do. -/
theorem eliminate [Platform] {sum : List α → Act σ α} {other : List β → Act τ β} (needed : List L)
    (stable : bridge.Stable Element)
    (alike : ∀ states lefts rights, List.Forall₂ (Element states) lefts rights →
      bridge.Corresponds states (sum lefts) (other rights) Element)
    {left : Entry α L} {right : Entry β L} (related : Entry.Related (Element states) left right) :
    bridge.Corresponds states (eliminate sum needed left) (Contraction.eliminate other needed right)
      fun states => Entry.Related (Element states) := by
  have sameDimensions : dimensionsOf [left] = dimensionsOf [right] :=
    dimensionsOf_eq (.cons related .nil)
  unfold Contraction.eliminate
  rw [related.labels_eq, sameDimensions]
  generalize right.labels.partition needed.elem = parts
  obtain ⟨kept, eliminated⟩ := parts
  by_cases isEmpty : eliminated.isEmpty = true
  · simp only [isEmpty, if_true]
    exact pure related
  · simp only [isEmpty]
    refine liftBindSame _ fun dimensions => ?_
    refine liftBind (spread_related related _ dimensions) fun first second spreadAlike => ?_
    refine (fold stable stable alike _ spreadAlike).bind
      fun middle result otherResult _ _ found => ?_
    exact pure ⟨rfl, found⟩

variable {sum : List α → Act σ α} {otherSum : List β → Act τ β} {product : α → α → Act σ α}
  {other : β → β → Act τ β} (order : List L) (stable : bridge.Stable Element)
  (alikeSum : ∀ states lefts rights, List.Forall₂ (Element states) lefts rights →
    bridge.Corresponds states (sum lefts) (otherSum rights) Element)
  (alike : ∀ states first second third fourth, Element states first second →
    Element states third fourth →
      bridge.Corresponds states (product first third) (other second fourth) Element)

include stable alikeSum

theorem firstStep [Platform] (needed : List L) {left : Entry α L} {right : Entry β L}
    (related : Entry.Related (Element states) left right) :
    bridge.Corresponds states (firstStep sum order needed left)
      (Contraction.firstStep otherSum order needed right)
      fun states => Entry.Related (Element states) :=
  liftBind (arrange_related order related) fun _ _ arranged => eliminate needed stable alikeSum arranged

include alike

/-- One step of combining corresponds, from related entries to related entries. -/
theorem step [Platform] (needed : List L) {left next : Entry α L} {right following : Entry β L}
    (related : Entry.Related (Element states) left right)
    (relatedNext : Entry.Related (Element states) next following) :
    bridge.Corresponds states (step sum product order needed left next)
      (Contraction.step otherSum other order needed right following)
      fun states => Entry.Related (Element states) := by
  refine liftBind (arrange_related order relatedNext) fun arranged otherArranged arrangedAlike => ?_
  refine (join order stable alike related arrangedAlike).bind fun _ _ _ _ _ joined => ?_
  exact eliminate needed stable alikeSum joined

/-- Combining related entries corresponds, by induction on the entries that are left. -/
theorem combine [Platform] (output : List L) {lefts : List (Entry α L)} {rights : List (Entry β L)}
    {left : Entry α L} {right : Entry β L} {states : σ × τ}
    (related : Entry.Related (Element states) left right)
    (relatedRest : List.Forall₂ (Entry.Related (Element states)) lefts rights) :
    bridge.Corresponds states (combine sum product order output left lefts)
      (Contraction.combine otherSum other order output right rights)
      fun states => Entry.Related (Element states) := by
  have stableEntry : bridge.Stable fun states => @Entry.Related α β L (Element states) :=
    fun _ _ _ _ reached alike => alike.mono fun _ _ => stable reached
  induction lefts generalizing rights left right states with
  | nil =>
      cases relatedRest
      exact pure related
  | cons first lefts hypothesis =>
      cases relatedRest with
      | @cons _ second _ rights head tail =>
          rw [combine_cons, combine_cons, neededBy_eq tail output]
          refine (step order stable alikeSum alike _ related head).bind
            fun middle reduced otherReduced _ reached reducedAlike => ?_
          exact hypothesis reducedAlike (stableEntry.list reached tail)

/-- What is accumulated from related entries is related, or both fail alike. -/
theorem accumulate [Platform] (output : List L) {lefts : List (Entry α L)} {rights : List (Entry β L)}
    (related : List.Forall₂ (Entry.Related (Element states)) lefts rights) :
    bridge.Corresponds states (accumulate sum product order output lefts)
      (Contraction.accumulate otherSum other order output rights)
      fun states => Entry.Related (Element states) := by
  have stableEntry : bridge.Stable fun states => @Entry.Related α β L (Element states) :=
    fun _ _ _ _ reached alike => alike.mono fun _ _ => stable reached
  cases related with
  | nil => exact throw _
  | @cons first second lefts rights head tail =>
      rw [Contraction.accumulate, Contraction.accumulate, neededBy_eq tail output]
      refine (firstStep order stable alikeSum _ head).bind
        fun middle start otherStart _ reached startAlike => ?_
      exact combine order stable alikeSum alike output startAlike (stableEntry.list reached tail)

omit stable alikeSum alike

/-- Contractions of related tensors fail alike, or give related tensors. -/
theorem contract [Platform] [HasJournal σ] [HasJournal τ] {left : Contraction σ α L}
    {right : Contraction τ β L}
    (keeps : ∀ event states, bridge.Valid states →
      bridge.Valid (HasJournal.note event states.1, HasJournal.note event states.2) ∧
        bridge.Reaches states (HasJournal.note event states.1, HasJournal.note event states.2))
    (stable : bridge.Stable Element) (alike : Alike bridge Element states left right)
    (output : List L) :
    bridge.Corresponds states (left.contract output) (right.contract output)
      fun states => Tensor.Related (Element states) := by
  have samePending : left.pending = right.pending := alike.entries.length_eq
  have stableEntry : bridge.Stable fun states => @Entry.Related α β L (Element states) :=
    fun _ _ _ _ reached alike => alike.mono fun _ _ => stable reached
  rw [contract_eq, contract_eq, alike.checkOutput_eq output, alike.order_eq, samePending]
  refine liftBindSame _ fun _ => ?_
  have announced : bridge.Corresponds states _ _ fun _ _ _ => True :=
    announce keeps (.contracting right.pending (touch right.order output).length
      (AxisLabel.tupleText output)) fun _ => trivial
  refine announced.bind fun middle _ _ _ reached _ => ?_
  refine (accumulate (touch right.order output) stable alike.sum alike.product output
    (stableEntry.list reached alike.entries)).bind fun last result otherResult _ _ found => ?_
  exact pure found.tensors

end Bridge.Corresponds

end TensorLogic
