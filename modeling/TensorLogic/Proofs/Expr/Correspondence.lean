/-
Module: TensorLogic.Proofs.Expr.Correspondence
Purpose: An expression of a kind fails alike in two algebras, or has related values, if the operations
  of the algebras treat related truth values alike.
Main exports: BoolAlgebra.Respects, Environment.Related, Expr.Agrees, Expr.HasKind.agrees
-/
import TensorLogic.Proofs.Contraction.Correspondence
import TensorLogic.Proofs.Expr.Kind

namespace TensorLogic

variable {σ τ β γ : Type} [HasJournal σ] [HasJournal τ]

/-- The constants and the operations of two algebras treat related elements alike. -/
structure BoolAlgebra.Respects (bridge : Bridge σ τ) (Element : σ × τ → Value β → Value γ → Prop)
    (left : BoolAlgebra σ (Value β)) (right : BoolAlgebra τ (Value γ)) : Prop where
  keeps : ∀ event states, bridge.Valid states →
    bridge.Valid (HasJournal.note event states.1, HasJournal.note event states.2) ∧
      bridge.Reaches states (HasJournal.note event states.1, HasJournal.note event states.2)
  stable : bridge.Stable Element
  fixed : ∀ states first second site, Element states first second →
    first.placed site = first ∧ second.placed site = second
  bot : ∀ states, bridge.Valid states → Element states left.bot right.bot
  top : ∀ states, bridge.Valid states → Element states left.top right.top
  lift : ∀ states, bridge.Valid states → ∀ value, Element states (left.lift value) (right.lift value)
  neg : ∀ states first second, Element states first second →
    bridge.Corresponds states (left.neg first) (right.neg second) Element
  connective : ∀ connective states first second third fourth, Element states first second →
    Element states third fourth →
      bridge.Corresponds states (left.connective connective first third)
        (right.connective connective second fourth) Element
  aggregate : ∀ aggregate states lefts rights, List.Forall₂ (Element states) lefts rights →
    bridge.Corresponds states (left.aggregate aggregate lefts) (right.aggregate aggregate rights)
      Element
  compare : ∀ comparison states lefts rights others otherRights,
    List.Forall₂ (Element states) lefts rights →
      List.Forall₂ (Element states) others otherRights →
        bridge.Corresponds states (left.compare comparison lefts others)
          (right.compare comparison rights otherRights) Element

/-- Every name of a context stands for related values of its kind. -/
def Environment.Related (Element : Value β → Value γ → Prop) (context : Context)
    (left : Environment β) (right : Environment γ) : Prop :=
  ∀ name kind, context.lookup name = some kind → ∃ value other,
    left.lookup name = some value ∧ right.lookup name = some other ∧
      kind.Relates Element value other

/-- Related environments are related by anything weaker. -/
theorem Environment.Related.mono {Element Weaker : Value β → Value γ → Prop} {context : Context}
    {left : Environment β} {right : Environment γ} (related : Related Element context left right)
    (weaker : ∀ first second, Element first second → Weaker first second) :
    Related Weaker context left right := by
  intro name kind found
  obtain ⟨value, other, isLeft, isRight, alike⟩ := related name kind found
  exact ⟨value, other, isLeft, isRight, alike.mono weaker⟩

/-- Environments stay related where related values of one kind are bound to a name in both. -/
theorem Environment.Related.cons {Element : Value β → Value γ → Prop} {context : Context}
    {left : Environment β} {right : Environment γ} (related : Related Element context left right)
    (name : String) {kind : Kind} {value : Value β} {other : Value γ}
    (alike : kind.Relates Element value other) :
    Related Element ((name, kind) :: context) ((name, value) :: left) ((name, other) :: right) := by
  intro asked found isKind
  rw [List.lookup_cons] at isKind ⊢
  rw [List.lookup_cons]
  cases same : asked == name with
  | true =>
      rw [same] at isKind
      cases isKind
      exact ⟨value, other, rfl, rfl, alike⟩
  | false =>
      rw [same] at isKind
      exact related asked found isKind

attribute [simp] Expr.eval Expr.evalAll Expr.evalTerms

namespace Expr

variable [Platform] (bridge : Bridge σ τ) (Element : σ × τ → Value β → Value γ → Prop)
  (left : Interpretation σ β) (right : Interpretation τ γ)

/-- An expression fails alike on two sides, or has related values of a kind, wherever the named values
are related. -/
def Agrees (context : Context) (expression : Expr) (kind : Kind) : Prop :=
  ∀ site states environment other,
    Environment.Related (Element states) context environment other →
      bridge.Corresponds states (expression.eval left environment site)
        (expression.eval right other site) fun states => kind.Relates (Element states)

variable {bridge Element left right} {context : Context}

open Bridge

omit [Platform] [HasJournal σ] [HasJournal τ] in
/-- A relation between elements that lasts also lasts between values of every kind. -/
theorem stable_relates (stable : bridge.Stable Element) (kind : Kind) :
    bridge.Stable fun states => kind.Relates (Element states) :=
  fun _ _ _ _ reached related => related.mono fun _ _ => stable reached

section

variable (respects : left.algebra.Respects bridge Element right.algebra)

include respects

omit [Platform] in
/-- Related environments stay related as the states go on. -/
theorem environment_later {states next : σ × τ} (reached : bridge.Reaches states next)
    {environment : Environment β} {other : Environment γ}
    (related : Environment.Related (Element states) context environment other) :
    Environment.Related (Element next) context environment other :=
  related.mono fun _ _ => respects.stable reached

/-- Expressions are evaluated in turn, so that what later ones are handed has to last. -/
theorem evalAll_agrees {kind : Kind} {items : List Expr}
    (agree : ∀ item ∈ items, Agrees bridge Element left right context item kind) (site : Site)
    (number : Nat) {states : σ × τ} {environment : Environment β} {other : Environment γ}
    (related : Environment.Related (Element states) context environment other) :
    bridge.Corresponds states (evalAll left environment site number items)
      (evalAll right other site number items)
      fun states => List.Forall₂ (kind.Relates (Element states)) := by
  induction items generalizing number states with
  | nil =>
      rw [evalAll, evalAll]
      exact .pure .nil
  | cons item items hypothesis =>
      rw [evalAll, evalAll]
      refine (agree item List.mem_cons_self _ states environment other related).bind
        fun middle first second _ reached head => ?_
      have rest := hypothesis (fun item member => agree item (List.mem_cons_of_mem _ member))
        (number + 1) (environment_later respects reached related)
      refine rest.bind fun last firsts seconds _ reachedLast tail => ?_
      exact .pure (.cons (stable_relates respects.stable kind reachedLast head) tail)

/-! ## Operations on the values of operands -/

omit respects in
/-- An operation on the value of one operand. -/
theorem agrees_operand {source : Expr} {kind : Kind} {δ ε : Type} {next : Value β → Act σ δ}
    {nextRight : Value γ → Act τ ε} {Result : σ × τ → δ → ε → Prop}
    (agrees : Agrees bridge Element left right context source kind)
    (rest : ∀ states first second, kind.Relates (Element states) first second →
      bridge.Corresponds states (next first) (nextRight second) Result)
    {site : Site} {states : σ × τ} {environment : Environment β} {other : Environment γ}
    (related : Environment.Related (Element states) context environment other) :
    bridge.Corresponds states (source.eval left environment site >>= next)
      (source.eval right other site >>= nextRight) Result :=
  (agrees site states environment other related).bind fun middle first second _ _ alike =>
    rest middle first second alike

/-- An operation on the values of two operands. -/
theorem agrees_operands {source further : Expr} {kind kindFurther : Kind} {δ ε : Type}
    {next : Value β → Value β → Act σ δ} {nextRight : Value γ → Value γ → Act τ ε}
    {Result : σ × τ → δ → ε → Prop}
    (agrees : Agrees bridge Element left right context source kind)
    (agreesFurther : Agrees bridge Element left right context further kindFurther)
    (rest : ∀ states first second third fourth, kind.Relates (Element states) first second →
      kindFurther.Relates (Element states) third fourth →
        bridge.Corresponds states (next first third) (nextRight second fourth) Result)
    {site siteFurther : Site} {states : σ × τ} {environment : Environment β}
    {other : Environment γ}
    (related : Environment.Related (Element states) context environment other) :
    bridge.Corresponds states
      (do
        let first ← source.eval left environment site
        let second ← further.eval left environment siteFurther
        next first second)
      (do
        let first ← source.eval right other site
        let second ← further.eval right other siteFurther
        nextRight first second) Result := by
  refine (agrees site states environment other related).bind
    fun middle first second _ reached alike => ?_
  refine (agreesFurther siteFurther middle environment other
    (environment_later respects reached related)).bind
    fun last third fourth _ reachedLast alikeFurther => ?_
  exact rest last first second third fourth
    (stable_relates respects.stable kind reachedLast alike) alikeFurther

omit [Platform] in
/-- A tensor that has come into being is related to the other one. -/
theorem relates_placed {kind : Kind} {states : σ × τ} {tensor : Tensor (Value β)}
    {other : Tensor (Value γ)}
    (related : Tensor.Related (kind.Relates (Element states)) tensor other) (site : Site) :
    (Kind.tensor kind).Relates (Element states) ((Value.ofTensor tensor).placed site)
      ((Value.ofTensor other).placed site) :=
  .placed (respects.fixed states) site (.ofTensor related)

omit [Platform] in
theorem elements_placed {states : σ × τ} {tensor : Tensor (Value β)} {other : Tensor (Value γ)}
    (related : Tensor.Related (Element states) tensor other) (site : Site) :
    (Kind.tensor .elem).Relates (Element states) ((Value.ofTensor tensor).placed site)
      ((Value.ofTensor other).placed site) :=
  .placed (respects.fixed states) site (.ofTensor related)

/-! ## One case for each kind of expression -/

/-- A cell agrees where the values it is taken from do. -/
theorem agrees_cell {source : Expr} {whole kind : Kind} (index : Datum)
    (members : ∀ states first second, whole.Relates (Element states) first second →
      SameOutcome (kind.Relates (Element states)) (first.cell index) (second.cell index))
    (agrees : Agrees bridge Element left right context source whole) :
    Agrees bridge Element left right context (.cell source index) kind := by
  intro site states environment other related
  rw [eval, eval]
  refine agrees_operand agrees (fun states first second alike => ?_) related
  refine .liftBind (members states first second alike) fun result otherResult found => ?_
  exact .pure (found.placed (respects.fixed states) site)

omit respects in
theorem agrees_item {source : Expr} {kind : Kind}
    (agrees : Agrees bridge Element left right context source (.tensor kind)) :
    Agrees bridge Element left right context (.item source) kind := by
  intro site states environment other related
  rw [eval, eval]
  refine agrees_operand agrees (fun states first second alike => ?_) related
  refine .liftBind (alike.tensorFor "item") fun tensor otherTensor tensors => ?_
  exact .lift tensors.item

/-- Reshaping agrees, and is refused on both sides, as only shape and axes decide about that. -/
theorem agrees_reshape {source : Expr} {kind : Kind} (shape axes : Datum)
    (agrees : Agrees bridge Element left right context source (.tensor kind)) :
    Agrees bridge Element left right context (.reshape source shape axes) (.tensor kind) := by
  intro site states environment other related
  rw [eval, eval]
  refine agrees_operand agrees (fun states first second alike => ?_) related
  refine .liftBind (alike.tensorFor "reshape") fun tensor otherTensor tensors => ?_
  refine .liftBind (tensors.reshapeOfData shape axes) fun result otherResult found => ?_
  refine .pure ?_
  rw [tensors.isKept shape axes]
  split
  · exact alike
  · exact relates_placed respects found site

/-- Diagonals agree; only shape and axes decide whether there are any. -/
theorem agrees_diagonal {source default : Expr} {kind : Kind} (axes : Datum)
    (agrees : Agrees bridge Element left right context source (.tensor kind))
    (agreesDefault : Agrees bridge Element left right context default kind) :
    Agrees bridge Element left right context (.diagonal source axes default) (.tensor kind) := by
  intro site states environment other related
  rw [eval, eval]
  refine (agrees _ states environment other related).bind
    fun middle first second _ reached alike => ?_
  refine .liftBind (alike.tensorFor "diagonal") fun tensor otherTensor tensors => ?_
  have relatedLater := environment_later respects reached related
  refine (agreesDefault _ middle environment other relatedLater).bind
    fun last filler otherFiller _ reachedLast alikeFiller => ?_
  have tensorsLater := tensors.mono fun _ _ => stable_relates respects.stable kind reachedLast
  refine .liftBind (tensorsLater.diagonalOfData alikeFiller axes)
    fun result otherResult found => ?_
  exact .pure (relates_placed respects found site)

/-- Taking a tensor apart agrees, and is refused on both sides for a tensor without axes. -/
theorem agrees_unstack {source : Expr} {kind : Kind}
    (agrees : Agrees bridge Element left right context source (.tensor kind)) :
    Agrees bridge Element left right context (.unstack source) (.list (.tensor kind)) := by
  intro site states environment other related
  rw [eval, eval]
  refine agrees_operand agrees (fun states first second alike => ?_) related
  refine .liftBind (alike.tensorFor "unstack") fun tensor otherTensor tensors => ?_
  refine .liftBind tensors.unstack fun pieces otherPieces found => ?_
  have members : List.Forall₂ ((Kind.tensor kind).Relates (Element states))
      (pieces.map .ofTensor) (otherPieces.map .ofTensor) := by
    rw [List.forall₂_map_left_iff, List.forall₂_map_right_iff]
    exact found.imp fun _ _ => .ofTensor
  have whole : (Kind.list (.tensor kind)).Relates (Element states)
      (.ofList (pieces.map .ofTensor)) (.ofList (otherPieces.map .ofTensor)) :=
    ⟨none, _, _, rfl, rfl, members⟩
  exact .pure (whole.placed (respects.fixed states) site)

/-- Stacking agrees; only the shapes decide whether it is possible. -/
theorem agrees_stack {sources : Expr} {whole kind : Kind} (shape : Option Datum)
    (collects : whole.Collects (.tensor kind))
    (agrees : Agrees bridge Element left right context sources whole) :
    Agrees bridge Element left right context (.stack sources shape) (.tensor kind) := by
  intro site states environment other related
  rw [eval, eval]
  refine agrees_operand agrees (fun states first second alike => ?_) related
  refine .liftBind (alike.sequence collects) fun firsts seconds members => ?_
  refine .liftBindSame _ fun dimensions => ?_
  have read : List.Forall₂ (fun one other => SameOutcome
      (Tensor.Related (kind.Relates (Element states))) (one.tensorFor "_Tensor__shape")
      (other.tensorFor "_Tensor__shape")) firsts seconds :=
    members.imp fun _ _ alike => alike.tensorFor "_Tensor__shape"
  refine .liftBind (Tensor.Related.stackWith read dimensions) fun result otherResult found => ?_
  exact .pure (relates_placed respects found site)

theorem agrees_concat {first second : Expr} {kind : Kind}
    (agrees : Agrees bridge Element left right context first (.tensor kind))
    (agreesSecond : Agrees bridge Element left right context second (.tensor kind)) :
    Agrees bridge Element left right context (.concat first second) (.tensor kind) := by
  intro site states environment other related
  rw [eval, eval]
  refine agrees_operands respects agrees agreesSecond
    (fun states one oneRight two twoRight alike alikeSecond => ?_) related
  refine .liftBind (alike.tensorFor "order") fun tensor otherTensor tensors => ?_
  refine .liftBind (alikeSecond.tensorFor "_Tensor__shape") fun further otherFurther others => ?_
  refine .liftBind (tensors.concat others) fun result otherResult found => ?_
  exact .pure (relates_placed respects found site)

/-- Folding with an aggregate agrees where the aggregates of the algebras do. -/
theorem agrees_fold {source : Expr} (aggregate : Aggregate) (count : Option Datum)
    (agrees : Agrees bridge Element left right context source (.tensor .elem)) :
    Agrees bridge Element left right context (.fold aggregate source count) (.tensor .elem) := by
  intro site states environment other related
  rw [eval, eval]
  refine agrees_operand agrees (fun states first second alike => ?_) related
  refine .liftBind (alike.tensorFor "fold") fun tensor otherTensor tensors => ?_
  refine .liftBindSame _ fun number => ?_
  have sameOrder : tensor.order = otherTensor.order := by
    rw [Tensor.order, Tensor.order, tensors.shape_eq]
  unfold BoolAlgebra.foldTensor
  rw [sameOrder]
  refine (Corresponds.fold respects.stable respects.stable (respects.aggregate aggregate) _
    tensors).bind fun last result otherResult _ _ found => ?_
  exact .pure (elements_placed respects found site)

theorem agrees_negTensor {source : Expr}
    (agrees : Agrees bridge Element left right context source (.tensor .elem)) :
    Agrees bridge Element left right context (.negTensor source) (.tensor .elem) := by
  intro site states environment other related
  rw [eval, eval]
  refine agrees_operand agrees (fun states first second alike => ?_) related
  refine .liftBind (alike.tensorFor "map") fun tensor otherTensor tensors => ?_
  refine (Corresponds.mapM respects.stable respects.stable respects.neg tensors).bind
    fun last result otherResult _ _ found => ?_
  exact .pure (elements_placed respects found site)

/-- A connective cell by cell agrees where the connectives of the algebras do. -/
theorem agrees_connectiveTensor {first second : Expr} (connective : Connective)
    (agrees : Agrees bridge Element left right context first (.tensor .elem))
    (agreesSecond : Agrees bridge Element left right context second (.tensor .elem)) :
    Agrees bridge Element left right context (.connectiveTensor connective first second)
      (.tensor .elem) := by
  intro site states environment other related
  rw [eval, eval]
  refine agrees_operands respects agrees agreesSecond
    (fun states one oneRight two twoRight alike alikeSecond => ?_) related
  refine .liftBind (alike.tensorFor "map2") fun tensor otherTensor tensors => ?_
  refine .liftBind alikeSecond.asTensor fun further otherFurther others => ?_
  refine (Corresponds.map2 respects.stable respects.stable respects.stable
    (respects.connective connective) tensors others).bind
    fun last result otherResult _ _ found => ?_
  exact .pure (elements_placed respects found site)

/-- An aggregate over a sequence, or over the cells of a tensor, agrees where those of the algebras do. -/
theorem agrees_aggregate {elements : Expr} {whole : Kind} (aggregate : Aggregate)
    (collects : whole.Collects .elem)
    (agrees : Agrees bridge Element left right context elements whole) :
    Agrees bridge Element left right context (.aggregate aggregate elements) .elem := by
  intro site states environment other related
  rw [eval, eval]
  refine agrees_operand agrees (fun states first second alike => ?_) related
  refine .liftBind (alike.sequenceAt (respects.fixed states) collects site.parts)
    fun firsts seconds members => ?_
  exact respects.aggregate aggregate states firsts seconds members

/-- A comparison of two sequences agrees where those of the algebras do. -/
theorem agrees_compare {first second : Expr} {whole wholeSecond : Kind} (comparison : Comparison)
    (collects : whole.Collects .elem) (collectsSecond : wholeSecond.Collects .elem)
    (agrees : Agrees bridge Element left right context first whole)
    (agreesSecond : Agrees bridge Element left right context second wholeSecond) :
    Agrees bridge Element left right context (.compare comparison first second) .elem := by
  intro site states environment other related
  rw [eval, eval]
  refine agrees_operands respects agrees agreesSecond
    (fun states one oneRight two twoRight alike alikeSecond => ?_) related
  refine .liftBind (alike.sequence collects) fun lefts rights members => ?_
  refine .liftBind (alikeSecond.sequence collectsSecond) fun others otherRights further => ?_
  exact respects.compare comparison states lefts rights others otherRights members further

/-- Lifting a tensor of data cell by cell agrees where the lifts of the algebras do. -/
theorem agrees_liftTensor {source : Expr}
    (agrees : Agrees bridge Element left right context source (.tensor .plain)) :
    Agrees bridge Element left right context (.liftTensor source) (.tensor .elem) := by
  intro site states environment other related
  rw [eval, eval]
  refine agrees_operand agrees (fun states first second alike => ?_) related
  refine .liftBind (alike.tensorFor "map") fun tensor otherTensor tensors => ?_
  refine .of_valid fun valid => ?_
  obtain ⟨pairs, rfl, rfl⟩ := tensors.exists_pairs
  have lifted : Tensor.Related (Element states)
      (left.algebra.liftTensor Value.truth (pairs.map Paired.left))
      (right.algebra.liftTensor Value.truth (pairs.map Paired.right)) := by
    refine ⟨rfl, ?_⟩
    rw [BoolAlgebra.liftTensor, BoolAlgebra.liftTensor, Tensor.toList_map, Tensor.toList_map,
      Tensor.toList_map, Tensor.toList_map, List.map_map, List.map_map]
    refine forall₂_map_map fun pair => ?_
    have sameTruth : pair.left.truth = pair.right.truth := Kind.Relates.truth_eq pair.property
    change Element states (left.algebra.lift pair.left.truth) (right.algebra.lift pair.right.truth)
    rw [sameTruth]
    exact respects.lift states valid _
  exact .pure (elements_placed respects lifted site)

theorem agrees_list {items : List Expr} {kind : Kind}
    (agree : ∀ item ∈ items, Agrees bridge Element left right context item kind) :
    Agrees bridge Element left right context (.list items) (.list kind) := by
  intro site states environment other related
  rw [eval, eval]
  refine (evalAll_agrees respects agree site 0 related).bind fun last firsts seconds _ _ found => ?_
  have whole : (Kind.list kind).Relates (Element last) (.ofList firsts) (.ofList seconds) :=
    ⟨none, _, _, rfl, rfl, found⟩
  exact .pure (whole.placed (respects.fixed last) site)

theorem agrees_tensor {elems : List Expr} {kind : Kind} (shape : Datum)
    (agree : ∀ item ∈ elems, Agrees bridge Element left right context item kind) :
    Agrees bridge Element left right context (.tensor shape elems) (.tensor kind) := by
  intro site states environment other related
  rw [eval, eval]
  refine (evalAll_agrees respects agree site 0 related).bind fun last firsts seconds _ _ found => ?_
  refine .liftBindSame _ fun dimensions => ?_
  refine .liftBind (Tensor.Related.ofElems dimensions found) fun result otherResult tensors => ?_
  exact .pure (relates_placed respects tensors site)

theorem agrees_constant {value : Expr} {kind : Kind} (shape : Datum)
    (agrees : Agrees bridge Element left right context value kind) :
    Agrees bridge Element left right context (.constant shape value) (.tensor kind) := by
  intro site states environment other related
  rw [eval, eval]
  refine agrees_operand agrees (fun states first second alike => ?_) related
  refine .liftBindSame _ fun dimensions => ?_
  refine .liftBindSame _ fun _ => ?_
  exact .pure (relates_placed respects (.constant dimensions alike) site)

/-- Data are the same on both sides, and are no elements. -/
theorem agrees_data (shape values : Datum) :
    Agrees bridge Element left right context (.data shape values) (.tensor .plain) := by
  intro site states environment other related
  rw [eval, eval]
  refine .liftBindSame _ fun tensor => ?_
  have tensors : Tensor.Related (Kind.plain.Relates (Element states))
      (tensor.map Value.ofDatum) (tensor.map Value.ofDatum) :=
    .of_map tensor fun datum => ⟨datum, rfl, rfl⟩
  exact .pure (relates_placed respects tensors site)

/-- A binding agrees where the value does, and the body does with a name of its kind at hand. -/
theorem agrees_letIn {name : String} {value body : Expr} {bound kind : Kind}
    (agrees : Agrees bridge Element left right context value bound)
    (agreesBody : Agrees bridge Element left right ((name, bound) :: context) body kind) :
    Agrees bridge Element left right context (.letIn name value body) kind := by
  intro site states environment other related
  rw [eval, eval]
  refine (agrees _ states environment other related).bind
    fun middle first second _ reached alike => ?_
  have later := environment_later respects reached related
  have extended : Environment.Related (Element middle) ((name, bound) :: context)
      ((name, first) :: environment) ((name, second) :: other) := later.cons name alike
  exact agreesBody (site.operand 1) middle ((name, first) :: environment)
    ((name, second) :: other) extended

omit respects in
/-- A name agrees, since both environments bind it to related values. -/
theorem agrees_ref {name : String} {kind : Kind} (found : context.lookup name = some kind) :
    Agrees bridge Element left right context (.ref name) kind := by
  intro site states environment other related
  obtain ⟨value, otherValue, isLeft, isRight, alike⟩ := related name kind found
  rw [eval, eval, isLeft, isRight]
  exact .pure alike

/-! ## Contractions -/

variable (Element) in
/-- The operands of a contraction and their labels, as they are on two sides. -/
def TermsRelated (states : σ × τ) (lefts : List (Value β × List Label))
    (rights : List (Value γ × List Label)) : Prop :=
  List.Forall₂ (fun term other =>
    (Kind.tensor .elem).Relates (Element states) term.1 other.1 ∧ term.2 = other.2) lefts rights

omit [Platform] in
/-- The contractions of the two algebras are alike, as their operations are. -/
theorem contraction_alike (kind : ContractionKind) (states : σ × τ) :
    Contraction.Alike bridge Element states (Value.contraction left.algebra kind)
      (Value.contraction right.algebra kind) where
  sum := by
    cases kind with
    | logical => exact respects.aggregate .any
    | linear => exact respects.aggregate .parity
  product := respects.connective .conj
  order_eq := rfl
  entries := .nil
  consumed_eq := rfl

/-- Adding terms agrees, by induction on these: contractions that are alike stay alike with each tensor that
is added. -/
theorem evalTerms_agrees {sources : List Expr}
    (agree : ∀ source ∈ sources, Agrees bridge Element left right context source (.tensor .elem))
    (site : Site) (number : Nat) (labels : List Datum) {states : σ × τ}
    {environment : Environment β} {other : Environment γ}
    (related : Environment.Related (Element states) context environment other)
    {contraction : Contraction σ (Value β) Label} {otherContraction : Contraction τ (Value γ) Label}
    (alike : Contraction.Alike bridge Element states contraction otherContraction) :
    bridge.Corresponds states
      (evalTerms left environment site number contraction sources labels)
      (evalTerms right other site number otherContraction sources labels)
      fun states result otherResult =>
        Contraction.Alike bridge Element states result.1 otherResult.1 ∧
          TermsRelated Element states result.2 otherResult.2 := by
  induction sources generalizing number labels states contraction otherContraction with
  | nil =>
      rw [evalTerms, evalTerms]
      · exact .pure ⟨alike, .nil⟩
      · exact fun _ _ _ _ impossible => nomatch impossible
      · exact fun _ _ _ _ impossible => nomatch impossible
  | cons source sources hypothesis =>
      cases labels with
      | nil =>
          rw [evalTerms, evalTerms]
          · exact .pure ⟨alike, .nil⟩
          · exact fun _ _ _ _ _ impossible => nomatch impossible
          · exact fun _ _ _ _ _ impossible => nomatch impossible
      | cons given labels =>
          rw [evalTerms, evalTerms]
          refine (agree source List.mem_cons_self _ states environment other related).bind
            fun middle term otherTerm _ reached head => ?_
          refine .liftBindSame _ fun named => ?_
          have alikeLater := alike.later respects.stable reached
          refine .liftBind (alikeLater.addGiven head.asTensor (.ok named))
            fun extended otherExtended extendedAlike => ?_
          have rest := hypothesis (fun item member => agree item (List.mem_cons_of_mem _ member))
            (number + 1) labels (environment_later respects reached related) extendedAlike
          refine rest.bind fun last result otherResult _ reachedLast ⟨whole, terms⟩ => ?_
          have headLater := stable_relates respects.stable (.tensor .elem) reachedLast head
          exact .pure ⟨whole, .cons ⟨headLater, rfl⟩ terms⟩

omit [Platform] [HasJournal σ] [HasJournal τ] respects in
/-- What is kept of a contraction is related on both sides, as the labels are the same. -/
theorem contracted_related {states : σ × τ} {lefts : List (Value β × List Label)}
    {rights : List (Value γ × List Label)} {tensor : Tensor (Value β)} {other : Tensor (Value γ)}
    (terms : TermsRelated Element states lefts rights)
    (related : Tensor.Related (Element states) tensor other) (output : List Label) :
    (Kind.tensor .elem).Relates (Element states) (Value.contracted lefts output tensor)
      (Value.contracted rights output other) := by
  have whole : (Kind.tensor .elem).Relates (Element states) (.ofTensor tensor) (.ofTensor other) :=
    .ofTensor related
  cases terms with
  | nil => exact whole
  | cons head tail =>
      cases tail with
      | nil =>
          obtain ⟨alike, sameLabels⟩ := head
          unfold Value.contracted
          dsimp only
          rw [sameLabels]
          split
          · exact alike
          · exact whole
      | cons => exact whole

/-- A contraction agrees: the terms are added in turn, and its result is taken once. -/
theorem agrees_contract {sources : List Expr} (kind : ContractionKind) (labels : List Datum)
    (output : Datum)
    (agree : ∀ source ∈ sources, Agrees bridge Element left right context source (.tensor .elem)) :
    Agrees bridge Element left right context (.contract kind sources labels output)
      (.tensor .elem) := by
  intro site states environment other related
  rw [eval, eval]
  have terms := evalTerms_agrees respects agree site 0 labels related
    (contraction_alike respects kind states)
  refine terms.bind fun middle result otherResult _ _ ⟨whole, operands⟩ => ?_
  refine .liftBindSame _ fun asked => ?_
  refine (Corresponds.contract respects.keeps respects.stable whole asked).bind
    fun last tensor otherTensor _ reached found => ?_
  have operandsLater : TermsRelated Element last result.2 otherResult.2 :=
    operands.imp fun _ _ ⟨alike, same⟩ =>
      ⟨stable_relates respects.stable (.tensor .elem) reached alike, same⟩
  exact .pure ((contracted_related operandsLater found asked).placed (respects.fixed last) site)

end

/-- An expression of a kind fails alike in two algebras whose operations treat related elements alike,
or has related values. -/
theorem HasKind.agrees {expression : Expr} {kind : Kind} (typed : HasKind context expression kind)
    (respects : left.algebra.Respects bridge Element right.algebra) :
    Agrees bridge Element left right context expression kind := by
  induction typed with
  | top =>
      intro site states environment other related
      rw [eval, eval]
      exact .of_valid fun valid => .pure (respects.top states valid)
  | bot =>
      intro site states environment other related
      rw [eval, eval]
      exact .of_valid fun valid => .pure (respects.bot states valid)
  | lift datum =>
      intro site states environment other related
      rw [eval, eval]
      exact .of_valid fun valid => .pure (respects.lift _ valid datum.truth)
  | datum datum =>
      intro site states environment other related
      have alike : Kind.plain.Relates (Element states) (.ofDatum datum) (.ofDatum datum) :=
        ⟨datum, rfl, rfl⟩
      rw [eval, eval]
      exact .pure (alike.placed (respects.fixed states) site)
  | ref found => exact agrees_ref found
  | letIn _ _ value body => exact agrees_letIn respects value body
  | list _ items => exact agrees_list respects items
  | data shape values => exact agrees_data respects shape values
  | tensor shape _ elems => exact agrees_tensor respects shape elems
  | constant shape _ value => exact agrees_constant respects shape value
  | cell index collects _ source =>
      exact agrees_cell respects index (fun _ _ _ alike => alike.cell collects index) source
  | plainCell index _ source =>
      exact agrees_cell respects index (fun _ _ _ alike => alike.plainCell index) source
  | item _ source => exact agrees_item source
  | reshape shape axes _ source => exact agrees_reshape respects shape axes source
  | diagonal axes _ _ source default => exact agrees_diagonal respects axes source default
  | unstack _ source => exact agrees_unstack respects source
  | stack shape collects _ sources => exact agrees_stack respects shape collects sources
  | concat _ _ first second => exact agrees_concat respects first second
  | contract contraction labels output _ sources =>
      exact agrees_contract respects contraction labels output sources
  | fold aggregate count _ source => exact agrees_fold respects aggregate count source
  | neg _ operand =>
      intro site states environment other related
      rw [eval, eval]
      exact agrees_operand operand respects.neg related
  | connective connective _ _ first second =>
      intro site states environment other related
      rw [eval, eval]
      exact agrees_operands respects first second (respects.connective connective) related
  | aggregate aggregate collects _ elements =>
      exact agrees_aggregate respects aggregate collects elements
  | compare comparison collects collectsRight _ _ first second =>
      exact agrees_compare respects comparison collects collectsRight first second
  | negTensor _ source => exact agrees_negTensor respects source
  | liftTensor _ source => exact agrees_liftTensor respects source
  | connectiveTensor connective _ _ first second =>
      exact agrees_connectiveTensor respects connective first second

end Expr

end TensorLogic
