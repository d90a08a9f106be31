/-
Module: TensorLogic.Proofs.Expr.Uniform
Purpose: Any expression, whatever it does to its values, fails alike in two algebras or has alike values, if
  the operations of the algebras treat alike values alike.
Main exports: Interpretation.Uniform, Environment.Alike, Expr.Transfers, Expr.transfers
-/
import TensorLogic.Proofs.Algebra.Correspondence
import TensorLogic.Proofs.Expr.Alike
import TensorLogic.Proofs.Expr.Passage

namespace TensorLogic

variable {σ τ β γ : Type}

/-- Every name stands for alike values, or for none on both sides. -/
def Environment.Alike (Twin : β → γ → Prop) (left : Environment β) (right : Environment γ) : Prop :=
  ∀ name, Option.Rel (Value.Alike Twin) (left.lookup name) (right.lookup name)

/-- Environments that are alike are alike up to any weaker relation. -/
theorem Environment.Alike.mono {Twin Weaker : β → γ → Prop} {left : Environment β}
    {right : Environment γ} (alike : Alike Twin left right)
    (weaker : ∀ first second, Twin first second → Weaker first second) : Alike Weaker left right := by
  intro name
  have found := alike name
  generalize left.lookup name = first at found ⊢
  generalize right.lookup name = second at found ⊢
  cases found with
  | none => exact .none
  | some related => exact .some (related.mono weaker)

theorem Environment.Alike.cons {Twin : β → γ → Prop} {left : Environment β} {right : Environment γ}
    (alike : Alike Twin left right) (name : String) {value : Value β} {other : Value γ}
    (related : Value.Alike Twin value other) :
    Alike Twin ((name, value) :: left) ((name, other) :: right) := by
  intro asked
  rw [List.lookup_cons, List.lookup_cons]
  cases asked == name with
  | true => exact .some related
  | false => exact alike asked

variable [HasJournal σ] [HasJournal τ]

/-- Evaluation treats alike values alike on two sides, as far as the operations of the algebras and
announcements are concerned. -/
structure Interpretation.Uniform (bridge : Bridge σ τ) (Twin : σ × τ → β → γ → Prop)
    (left : Interpretation σ β) (right : Interpretation τ γ) : Prop where
  keeps : ∀ event states, bridge.Valid states →
    bridge.Valid (HasJournal.note event states.1, HasJournal.note event states.2) ∧
      bridge.Reaches states (HasJournal.note event states.1, HasJournal.note event states.2)
  stable : bridge.Stable Twin
  leaf : ∀ states name, SameOutcome (Value.Alike (Twin states)) (left.leaf name) (right.leaf name)
  operations : left.algebra.Uniform bridge (fun states => Value.Alike (Twin states)) right.algebra

namespace Expr

variable [Platform] (bridge : Bridge σ τ) (Twin : σ × τ → β → γ → Prop) (left : Interpretation σ β)
  (right : Interpretation τ γ)

/-- An expression fails alike on two sides, or has alike values, wherever the named values are alike. -/
def Transfers (expression : Expr) : Prop :=
  ∀ site states environment other, Environment.Alike (Twin states) environment other →
    bridge.Corresponds states (expression.eval left environment site)
      (expression.eval right other site) fun states => Value.Alike (Twin states)

variable {bridge Twin left right}

open Bridge

section

variable (uniform : Interpretation.Uniform bridge Twin left right)

include uniform

omit [Platform] in
/-- Values that are alike stay alike as the states go on. -/
theorem stable_alike : bridge.Stable fun states => Value.Alike (Twin states) :=
  fun _ _ _ _ reached alike => alike.mono fun _ _ => uniform.stable reached

omit [Platform] in
theorem alike_later {states next : σ × τ} (reached : bridge.Reaches states next)
    {environment : Environment β} {other : Environment γ}
    (alike : Environment.Alike (Twin states) environment other) :
    Environment.Alike (Twin next) environment other :=
  alike.mono fun _ _ => uniform.stable reached

/-- Expressions are evaluated in turn, so that what is alike for later ones has to stay alike. -/
theorem transfers_evalAll {items : List Expr}
    (each : ∀ item ∈ items, Transfers bridge Twin left right item) (site : Site) (number : Nat)
    {states : σ × τ} {environment : Environment β} {other : Environment γ}
    (alike : Environment.Alike (Twin states) environment other) :
    bridge.Corresponds states (evalAll left environment site number items)
      (evalAll right other site number items)
      fun states => List.Forall₂ (Value.Alike (Twin states)) := by
  induction items generalizing number states with
  | nil =>
      rw [evalAll, evalAll]
      exact .pure .nil
  | cons item items hypothesis =>
      rw [evalAll, evalAll]
      refine (each item List.mem_cons_self _ states environment other alike).bind
        fun middle first second _ reached head => ?_
      have rest := hypothesis (fun item member => each item (List.mem_cons_of_mem _ member))
        (number + 1) (alike_later uniform reached alike)
      refine rest.bind fun last firsts seconds _ reachedLast tail => ?_
      exact .pure (.cons (stable_alike uniform reachedLast head) tail)

/-! ## Operations on the values of operands -/

omit uniform in
/-- An operation on the value of one operand. -/
theorem transfers_operand {source : Expr} {δ ε : Type} {next : Value β → Act σ δ}
    {nextRight : Value γ → Act τ ε} {Result : σ × τ → δ → ε → Prop}
    (transfers : Transfers bridge Twin left right source)
    (rest : ∀ states first second, Value.Alike (Twin states) first second →
      bridge.Corresponds states (next first) (nextRight second) Result)
    {site : Site} {states : σ × τ} {environment : Environment β} {other : Environment γ}
    (alike : Environment.Alike (Twin states) environment other) :
    bridge.Corresponds states (source.eval left environment site >>= next)
      (source.eval right other site >>= nextRight) Result :=
  (transfers site states environment other alike).bind fun middle first second _ _ found =>
    rest middle first second found

/-- An operation on the values of two operands. -/
theorem transfers_operands {source further : Expr} {δ ε : Type}
    {next : Value β → Value β → Act σ δ} {nextRight : Value γ → Value γ → Act τ ε}
    {Result : σ × τ → δ → ε → Prop} (transfers : Transfers bridge Twin left right source)
    (transfersFurther : Transfers bridge Twin left right further)
    (rest : ∀ states first second third fourth, Value.Alike (Twin states) first second →
      Value.Alike (Twin states) third fourth →
        bridge.Corresponds states (next first third) (nextRight second fourth) Result)
    {site siteFurther : Site} {states : σ × τ} {environment : Environment β}
    {other : Environment γ} (alike : Environment.Alike (Twin states) environment other) :
    bridge.Corresponds states
      (do
        let first ← source.eval left environment site
        let second ← further.eval left environment siteFurther
        next first second)
      (do
        let first ← source.eval right other site
        let second ← further.eval right other siteFurther
        nextRight first second) Result := by
  refine (transfers site states environment other alike).bind
    fun middle first second _ reached found => ?_
  refine (transfersFurther siteFurther middle environment other
    (alike_later uniform reached alike)).bind fun last third fourth _ reachedLast further => ?_
  exact rest last first second third fourth (stable_alike uniform reachedLast found) further

omit [Platform] [HasJournal σ] [HasJournal τ] uniform in
/-- A tensor that has come into being is like the other one. -/
theorem alike_placed {states : σ × τ} {tensor : Tensor (Value β)} {other : Tensor (Value γ)}
    (related : Tensor.Related (Value.Alike (Twin states)) tensor other) (site : Site) :
    Value.Alike (Twin states) ((Value.ofTensor tensor).placed site)
      ((Value.ofTensor other).placed site) :=
  (Value.Alike.ofTensor related).placed site

/-! ## One case for each kind of expression -/

omit uniform in
/-- A cell transfers where the values it is taken from do. -/
theorem transfers_cell {source : Expr} (index : Datum)
    (transfers : Transfers bridge Twin left right source) :
    Transfers bridge Twin left right (.cell source index) := by
  intro site states environment other alike
  rw [eval, eval]
  refine transfers_operand transfers (fun states first second found => ?_) alike
  exact .liftBind (found.cell index) fun result otherResult member => .pure (member.placed site)

omit uniform in
theorem transfers_item {source : Expr} (transfers : Transfers bridge Twin left right source) :
    Transfers bridge Twin left right (.item source) := by
  intro site states environment other alike
  rw [eval, eval]
  refine transfers_operand transfers (fun states first second found => ?_) alike
  exact .liftBind (found.tensorFor "item") fun tensor otherTensor tensors => .lift tensors.item

omit uniform in
/-- Reshaping transfers, or is refused on both sides: tensors that are alike have the same shape. -/
theorem transfers_reshape {source : Expr} (shape axes : Datum)
    (transfers : Transfers bridge Twin left right source) :
    Transfers bridge Twin left right (.reshape source shape axes) := by
  intro site states environment other alike
  rw [eval, eval]
  refine transfers_operand transfers (fun states first second found => ?_) alike
  refine .liftBind (found.tensorFor "reshape") fun tensor otherTensor tensors => ?_
  refine .liftBind (tensors.reshapeOfData shape axes) fun result otherResult reshaped => ?_
  refine .pure ?_
  rw [tensors.isKept shape axes]
  split
  · exact found
  · exact alike_placed reshaped site

/-- Diagonals transfer, or are refused on both sides. -/
theorem transfers_diagonal {source default : Expr} (axes : Datum)
    (transfers : Transfers bridge Twin left right source)
    (transfersDefault : Transfers bridge Twin left right default) :
    Transfers bridge Twin left right (.diagonal source axes default) := by
  intro site states environment other alike
  rw [eval, eval]
  refine (transfers _ states environment other alike).bind
    fun middle first second _ reached found => ?_
  refine .liftBind (found.tensorFor "diagonal") fun tensor otherTensor tensors => ?_
  refine (transfersDefault _ middle environment other (alike_later uniform reached alike)).bind
    fun last filler otherFiller _ reachedLast alikeFiller => ?_
  have tensorsLater := tensors.mono fun _ _ => stable_alike uniform reachedLast
  refine .liftBind (tensorsLater.diagonalOfData alikeFiller axes)
    fun result otherResult diagonal => ?_
  exact .pure (alike_placed diagonal site)

omit uniform in
theorem transfers_unstack {source : Expr} (transfers : Transfers bridge Twin left right source) :
    Transfers bridge Twin left right (.unstack source) := by
  intro site states environment other alike
  rw [eval, eval]
  refine transfers_operand transfers (fun states first second found => ?_) alike
  refine .liftBind (found.tensorFor "unstack") fun tensor otherTensor tensors => ?_
  refine .liftBind tensors.unstack fun pieces otherPieces unstacked => ?_
  have members : List.Forall₂ (Value.Alike (Twin states)) (pieces.map .ofTensor)
      (otherPieces.map .ofTensor) := by
    rw [List.forall₂_map_left_iff, List.forall₂_map_right_iff]
    exact unstacked.imp fun _ _ => .ofTensor
  have whole : Value.Alike (Twin states) (.ofList (pieces.map .ofTensor))
      (.ofList (otherPieces.map .ofTensor)) := .list none members
  exact .pure (whole.placed site)

omit uniform in
/-- Stacking transfers, also of values that are no tensors, which both sides refuse. -/
theorem transfers_stack {sources : Expr} (shape : Option Datum)
    (transfers : Transfers bridge Twin left right sources) :
    Transfers bridge Twin left right (.stack sources shape) := by
  intro site states environment other alike
  rw [eval, eval]
  refine transfers_operand transfers (fun states first second found => ?_) alike
  refine .liftBind found.sequence fun firsts seconds members => ?_
  refine .liftBindSame _ fun dimensions => ?_
  have read : List.Forall₂ (fun one other => SameOutcome
      (Tensor.Related (Value.Alike (Twin states))) (one.tensorFor "_Tensor__shape")
      (other.tensorFor "_Tensor__shape")) firsts seconds :=
    members.imp fun _ _ alike => alike.tensorFor "_Tensor__shape"
  refine .liftBind (Tensor.Related.stackWith read dimensions) fun result otherResult stacked => ?_
  exact .pure (alike_placed stacked site)

theorem transfers_concat {first second : Expr}
    (transfers : Transfers bridge Twin left right first)
    (transfersSecond : Transfers bridge Twin left right second) :
    Transfers bridge Twin left right (.concat first second) := by
  intro site states environment other alike
  rw [eval, eval]
  refine transfers_operands uniform transfers transfersSecond
    (fun states one oneRight two twoRight found further => ?_) alike
  refine .liftBind (found.tensorFor "order") fun tensor otherTensor tensors => ?_
  refine .liftBind (further.tensorFor "_Tensor__shape") fun last otherLast others => ?_
  refine .liftBind (tensors.concat others) fun result otherResult joined => ?_
  exact .pure (alike_placed joined site)

/-- Folding with an aggregate transfers where the aggregates of the algebras do. -/
theorem transfers_fold {source : Expr} (aggregate : Aggregate) (count : Option Datum)
    (transfers : Transfers bridge Twin left right source) :
    Transfers bridge Twin left right (.fold aggregate source count) := by
  intro site states environment other alike
  rw [eval, eval]
  refine transfers_operand transfers (fun states first second found => ?_) alike
  refine .liftBind (found.tensorFor "fold") fun tensor otherTensor tensors => ?_
  refine .liftBindSame _ fun axes => ?_
  have sameOrder : tensor.order = otherTensor.order := by
    rw [Tensor.order, Tensor.order, tensors.shape_eq]
  rw [BoolAlgebra.foldTensor, BoolAlgebra.foldTensor, sameOrder]
  refine (Corresponds.fold (stable_alike uniform) (stable_alike uniform)
    (uniform.operations.aggregate aggregate) _ tensors).bind
    fun last result otherResult _ _ folded => ?_
  exact .pure (alike_placed folded site)

theorem transfers_neg {operand : Expr} (transfers : Transfers bridge Twin left right operand) :
    Transfers bridge Twin left right (.neg operand) := by
  intro site states environment other alike
  rw [eval, eval]
  exact transfers_operand transfers uniform.operations.neg alike

/-- A connective transfers where those of the algebras do, whatever kinds of values the operands are. -/
theorem transfers_connective {first second : Expr} (connective : Connective)
    (transfers : Transfers bridge Twin left right first)
    (transfersSecond : Transfers bridge Twin left right second) :
    Transfers bridge Twin left right (.connective connective first second) := by
  intro site states environment other alike
  rw [eval, eval]
  exact transfers_operands uniform transfers transfersSecond
    (uniform.operations.connective connective) alike

/-- An aggregate transfers where those of the algebras do, whatever is in the sequence. -/
theorem transfers_aggregate {elements : Expr} (aggregate : Aggregate)
    (transfers : Transfers bridge Twin left right elements) :
    Transfers bridge Twin left right (.aggregate aggregate elements) := by
  intro site states environment other alike
  rw [eval, eval]
  refine transfers_operand transfers (fun states first second found => ?_) alike
  exact .liftBind (found.sequenceAt site.parts) fun firsts seconds members =>
    uniform.operations.aggregate aggregate states firsts seconds members

/-- A comparison transfers where those of the algebras do, whatever is in the sequences. -/
theorem transfers_compare {first second : Expr} (comparison : Comparison)
    (transfers : Transfers bridge Twin left right first)
    (transfersSecond : Transfers bridge Twin left right second) :
    Transfers bridge Twin left right (.compare comparison first second) := by
  intro site states environment other alike
  rw [eval, eval]
  refine transfers_operands uniform transfers transfersSecond
    (fun states one oneRight two twoRight found further => ?_) alike
  refine .liftBind found.sequence fun lefts rights members => ?_
  refine .liftBind further.sequence fun others otherRights membersFurther => ?_
  exact uniform.operations.compare comparison states lefts rights others otherRights members
    membersFurther

theorem transfers_negTensor {source : Expr} (transfers : Transfers bridge Twin left right source) :
    Transfers bridge Twin left right (.negTensor source) := by
  intro site states environment other alike
  rw [eval, eval]
  refine transfers_operand transfers (fun states first second found => ?_) alike
  refine .liftBind (found.tensorFor "map") fun tensor otherTensor tensors => ?_
  refine (Corresponds.mapM (stable_alike uniform) (stable_alike uniform) uniform.operations.neg
    tensors).bind fun last result otherResult _ _ negated => ?_
  exact .pure (alike_placed negated site)

/-- Lifting cell by cell transfers where the lifts of the algebras do, whatever is in the cells. -/
theorem transfers_liftTensor {source : Expr}
    (transfers : Transfers bridge Twin left right source) :
    Transfers bridge Twin left right (.liftTensor source) := by
  intro site states environment other alike
  rw [eval, eval]
  refine transfers_operand transfers (fun states first second found => ?_) alike
  refine .liftBind (found.tensorFor "map") fun tensor otherTensor tensors => ?_
  refine .of_valid fun valid => ?_
  have lifted : Tensor.Related (Value.Alike (Twin states))
      (left.algebra.liftTensor Value.truth tensor)
      (right.algebra.liftTensor Value.truth otherTensor) := by
    refine ⟨tensors.shape_eq, ?_⟩
    rw [BoolAlgebra.liftTensor, BoolAlgebra.liftTensor, Tensor.toList_map, Tensor.toList_map,
      List.forall₂_map_left_iff, List.forall₂_map_right_iff]
    refine tensors.elements.imp fun one two same => ?_
    rw [same.truth_eq]
    exact uniform.operations.lift states valid _
  exact .pure (alike_placed lifted site)

theorem transfers_connectiveTensor {first second : Expr} (connective : Connective)
    (transfers : Transfers bridge Twin left right first)
    (transfersSecond : Transfers bridge Twin left right second) :
    Transfers bridge Twin left right (.connectiveTensor connective first second) := by
  intro site states environment other alike
  rw [eval, eval]
  refine transfers_operands uniform transfers transfersSecond
    (fun states one oneRight two twoRight found further => ?_) alike
  refine .liftBind (found.tensorFor "map2") fun tensor otherTensor tensors => ?_
  refine .liftBind further.asTensor fun last otherLast others => ?_
  refine (Corresponds.map2 (stable_alike uniform) (stable_alike uniform) (stable_alike uniform)
    (uniform.operations.connective connective) tensors others).bind
    fun last result otherResult _ _ mapped => ?_
  exact .pure (alike_placed mapped site)

theorem transfers_list {items : List Expr}
    (each : ∀ item ∈ items, Transfers bridge Twin left right item) :
    Transfers bridge Twin left right (.list items) := by
  intro site states environment other alike
  rw [eval, eval]
  refine (transfers_evalAll uniform each site 0 alike).bind
    fun last firsts seconds _ _ members => ?_
  exact .pure ((Value.Alike.list none members).placed site)

theorem transfers_tensor {elems : List Expr} (shape : Datum)
    (each : ∀ item ∈ elems, Transfers bridge Twin left right item) :
    Transfers bridge Twin left right (.tensor shape elems) := by
  intro site states environment other alike
  rw [eval, eval]
  refine (transfers_evalAll uniform each site 0 alike).bind
    fun last firsts seconds _ _ members => ?_
  refine .liftBindSame _ fun dimensions => ?_
  refine .liftBind (Tensor.Related.ofElems dimensions members) fun result otherResult tensors => ?_
  exact .pure (alike_placed tensors site)

omit uniform in
theorem transfers_constant {value : Expr} (shape : Datum)
    (transfers : Transfers bridge Twin left right value) :
    Transfers bridge Twin left right (.constant shape value) := by
  intro site states environment other alike
  rw [eval, eval]
  refine transfers_operand transfers (fun states first second found => ?_) alike
  refine .liftBindSame _ fun dimensions => ?_
  refine .liftBindSame _ fun _ => ?_
  exact .pure (alike_placed (.constant dimensions found) site)

omit uniform in
theorem transfers_data (shape values : Datum) :
    Transfers bridge Twin left right (.data shape values) := by
  intro site states environment other alike
  rw [eval, eval]
  refine .liftBindSame _ fun tensor => ?_
  have tensors : Tensor.Related (Value.Alike (Twin states)) (tensor.map Value.ofDatum)
      (tensor.map Value.ofDatum) := .of_map tensor fun datum => .ofDatum datum
  exact .pure (alike_placed tensors site)

omit uniform in
/-- A name transfers: it is bound to values that are alike, or to none on both sides. -/
theorem transfers_ref (name : String) : Transfers bridge Twin left right (.ref name) := by
  intro site states environment other alike
  rw [eval, eval]
  have found := alike name
  generalize environment.lookup name = first at found ⊢
  generalize other.lookup name = second at found ⊢
  cases found with
  | none => exact .throw _
  | some related => exact .pure related

/-- A binding transfers where the value and the body do. -/
theorem transfers_letIn (name : String) {value body : Expr}
    (transfers : Transfers bridge Twin left right value)
    (transfersBody : Transfers bridge Twin left right body) :
    Transfers bridge Twin left right (.letIn name value body) := by
  intro site states environment other alike
  rw [eval, eval]
  refine (transfers _ states environment other alike).bind
    fun middle first second _ reached found => ?_
  exact transfersBody _ middle _ _ ((alike_later uniform reached alike).cons name found)

/-- Operands in a wrong number are evaluated on both sides before they are refused. -/
theorem transfers_misapplied {operands : List Expr}
    (each : ∀ item ∈ operands, Transfers bridge Twin left right item) :
    Transfers bridge Twin left right (.misapplied operands) := by
  intro site states environment other alike
  rw [eval, eval]
  exact (transfers_evalAll uniform each site 0 alike).bind fun _ _ _ _ _ _ => .throw _

/-! ## Contractions -/

variable (Twin) in
/-- The operands of a contraction and their labels are alike on two sides. -/
def TermsAlike (states : σ × τ) (lefts : List (Value β × List Label))
    (rights : List (Value γ × List Label)) : Prop :=
  List.Forall₂ (fun term other => Value.Alike (Twin states) term.1 other.1 ∧ term.2 = other.2)
    lefts rights

omit [Platform] in
/-- The contractions of the two algebras are alike, as their operations are. -/
theorem contraction_uniform (kind : ContractionKind) (states : σ × τ) :
    Contraction.Alike bridge (fun states => Value.Alike (Twin states)) states
      (Value.contraction left.algebra kind) (Value.contraction right.algebra kind) where
  sum := by
    cases kind with
    | logical => exact uniform.operations.aggregate .any
    | linear => exact uniform.operations.aggregate .parity
  product := uniform.operations.connective .conj
  order_eq := rfl
  entries := .nil
  consumed_eq := rfl

/-- Adding terms transfers, by induction on these: contractions that are alike stay alike. -/
theorem transfers_evalTerms {sources : List Expr}
    (each : ∀ source ∈ sources, Transfers bridge Twin left right source) (site : Site) (number : Nat)
    (labels : List Datum) {states : σ × τ} {environment : Environment β} {other : Environment γ}
    (alike : Environment.Alike (Twin states) environment other)
    {contraction : Contraction σ (Value β) Label} {otherContraction : Contraction τ (Value γ) Label}
    (alikeSoFar : Contraction.Alike bridge (fun states => Value.Alike (Twin states)) states
      contraction otherContraction) :
    bridge.Corresponds states
      (evalTerms left environment site number contraction sources labels)
      (evalTerms right other site number otherContraction sources labels)
      fun states result otherResult =>
        Contraction.Alike bridge (fun states => Value.Alike (Twin states)) states result.1
          otherResult.1 ∧ TermsAlike Twin states result.2 otherResult.2 := by
  induction sources generalizing number labels states contraction otherContraction with
  | nil =>
      rw [evalTerms_nil, evalTerms_nil]
      exact .pure ⟨alikeSoFar, .nil⟩
  | cons source sources hypothesis =>
      cases labels with
      | nil =>
          rw [evalTerms_unlabelled, evalTerms_unlabelled]
          exact .pure ⟨alikeSoFar, .nil⟩
      | cons given labels =>
          rw [evalTerms, evalTerms]
          refine (each source List.mem_cons_self _ states environment other alike).bind
            fun middle term otherTerm _ reached head => ?_
          refine .liftBindSame _ fun named => ?_
          have alikeLater := alikeSoFar.later (stable_alike uniform) reached
          refine .liftBind (alikeLater.addGiven head.asTensor (.ok named))
            fun extended otherExtended extendedAlike => ?_
          have rest := hypothesis (fun item member => each item (List.mem_cons_of_mem _ member))
            (number + 1) labels (alike_later uniform reached alike) extendedAlike
          refine rest.bind fun last result otherResult _ reachedLast ⟨whole, terms⟩ => ?_
          exact .pure ⟨whole, .cons ⟨stable_alike uniform reachedLast head, rfl⟩ terms⟩

omit [Platform] [HasJournal σ] [HasJournal τ] uniform in
/-- What is kept of a contraction is alike on both sides, as the labels are the same. -/
theorem contracted_alike {states : σ × τ} {lefts : List (Value β × List Label)}
    {rights : List (Value γ × List Label)} {tensor : Tensor (Value β)} {other : Tensor (Value γ)}
    (terms : TermsAlike Twin states lefts rights)
    (related : Tensor.Related (Value.Alike (Twin states)) tensor other) (output : List Label) :
    Value.Alike (Twin states) (Value.contracted lefts output tensor)
      (Value.contracted rights output other) := by
  have whole : Value.Alike (Twin states) (.ofTensor tensor) (.ofTensor other) := .ofTensor related
  cases terms with
  | nil => exact whole
  | cons head tail =>
      cases tail with
      | cons => exact whole
      | nil =>
          obtain ⟨alike, sameLabels⟩ := head
          unfold Value.contracted
          dsimp only
          rw [sameLabels]
          split
          · exact alike
          · exact whole

/-- A contraction transfers: the terms are added in turn, and its result is taken once. -/
theorem transfers_contract {sources : List Expr} (kind : ContractionKind) (labels : List Datum)
    (output : Datum) (each : ∀ source ∈ sources, Transfers bridge Twin left right source) :
    Transfers bridge Twin left right (.contract kind sources labels output) := by
  intro site states environment other alike
  rw [eval, eval]
  have terms := transfers_evalTerms uniform each site 0 labels alike
    (contraction_uniform uniform kind states)
  refine terms.bind fun middle result otherResult _ _ ⟨whole, operands⟩ => ?_
  refine .liftBindSame _ fun asked => ?_
  refine (Corresponds.contract uniform.keeps (stable_alike uniform) whole asked).bind
    fun last tensor otherTensor _ reached found => ?_
  have operandsLater : TermsAlike Twin last result.2 otherResult.2 :=
    operands.imp fun _ _ ⟨alike, same⟩ => ⟨stable_alike uniform reached alike, same⟩
  exact .pure ((contracted_alike operandsLater found asked).placed site)

end

/-! ## All expressions -/

mutual

/-- Any expression fails alike in two algebras whose operations treat alike values alike, or has alike
values. -/
theorem transfers (uniform : Interpretation.Uniform bridge Twin left right) (expression : Expr) :
    Transfers bridge Twin left right expression := by
  match expression with
  | .top =>
      intro site states environment other alike
      rw [eval, eval]
      exact .of_valid fun valid => .pure (uniform.operations.top states valid)
  | .bot =>
      intro site states environment other alike
      rw [eval, eval]
      exact .of_valid fun valid => .pure (uniform.operations.bot states valid)
  | .lift given =>
      intro site states environment other alike
      rw [eval, eval]
      exact .of_valid fun valid => .pure (uniform.operations.lift states valid given.truth)
  | .datum given =>
      intro site states environment other alike
      rw [eval, eval]
      exact .pure ((Value.Alike.ofDatum given).placed site)
  | .leaf name =>
      intro site states environment other alike
      rw [eval, eval]
      exact .lift (uniform.leaf states name)
  | .ref name => exact transfers_ref name
  | .letIn name value body =>
      exact transfers_letIn uniform name (transfers uniform value) (transfers uniform body)
  | .list items => exact transfers_list uniform (transfersEach uniform items)
  | .data shape values => exact transfers_data shape values
  | .tensor shape elems => exact transfers_tensor uniform shape (transfersEach uniform elems)
  | .constant shape value => exact transfers_constant shape (transfers uniform value)
  | .cell source index => exact transfers_cell index (transfers uniform source)
  | .item source => exact transfers_item (transfers uniform source)
  | .reshape source shape axes => exact transfers_reshape shape axes (transfers uniform source)
  | .diagonal source axes default =>
      exact transfers_diagonal uniform axes (transfers uniform source) (transfers uniform default)
  | .unstack source => exact transfers_unstack (transfers uniform source)
  | .stack sources shape => exact transfers_stack shape (transfers uniform sources)
  | .concat first second =>
      exact transfers_concat uniform (transfers uniform first) (transfers uniform second)
  | .contract kind sources labels output =>
      exact transfers_contract uniform kind labels output (transfersEach uniform sources)
  | .fold operation source count =>
      exact transfers_fold uniform operation count (transfers uniform source)
  | .neg operand => exact transfers_neg uniform (transfers uniform operand)
  | .connective operation first second =>
      exact transfers_connective uniform operation (transfers uniform first)
        (transfers uniform second)
  | .aggregate operation elements =>
      exact transfers_aggregate uniform operation (transfers uniform elements)
  | .compare comparison first second =>
      exact transfers_compare uniform comparison (transfers uniform first)
        (transfers uniform second)
  | .negTensor source => exact transfers_negTensor uniform (transfers uniform source)
  | .liftTensor source => exact transfers_liftTensor uniform (transfers uniform source)
  | .connectiveTensor operation first second =>
      exact transfers_connectiveTensor uniform operation (transfers uniform first)
        (transfers uniform second)
  | .misapplied operands => exact transfers_misapplied uniform (transfersEach uniform operands)

theorem transfersEach (uniform : Interpretation.Uniform bridge Twin left right)
    (items : List Expr) :
    ∀ item ∈ items, Transfers bridge Twin left right item := by
  match items with
  | [] => exact fun _ inside => absurd inside List.not_mem_nil
  | head :: tail =>
      exact List.forall_mem_cons.2 ⟨transfers uniform head, transfersEach uniform tail⟩

end

end Expr

end TensorLogic
