/-
Module: TensorLogic.Proofs.Expr.Kind
Purpose: The expressions that use truth values of an algebra, plain data, lists and tensors each as
  what they are, and values of one kind on two sides.
Main exports: Kind, Kind.Collects, Expr.HasKind, Kind.Relates, Kind.Relates.placed,
  Kind.Relates.tensorFor, Kind.Relates.sequence, Kind.Relates.cell
-/
import TensorLogic.Expr.Eval
import TensorLogic.Proofs.Tensor.Related

namespace TensorLogic

/-- What a value is: a truth value of an algebra, a datum, or a list or a tensor of values of one
kind. -/
inductive Kind where
  | elem
  | plain
  | list (member : Kind)
  | tensor (member : Kind)
deriving Repr, DecidableEq

/-- The kinds whose values stand for sequences of members of a kind. -/
inductive Kind.Collects : Kind → Kind → Prop where
  | list (member : Kind) : Collects (.list member) member
  | tensor (member : Kind) : Collects (.tensor member) member

/-- The kinds of the named values. -/
abbrev Context := List (String × Kind)

/-- The kind of the values of an expression, given the kinds of the named values.  The operations of an
algebra apply to its truth values and to nothing else, and only data can be lifted. -/
inductive Expr.HasKind : Context → Expr → Kind → Prop where
  | top {context : Context} : HasKind context .top .elem
  | bot {context : Context} : HasKind context .bot .elem
  | lift {context : Context} (datum : Datum) : HasKind context (.lift datum) .elem
  | datum {context : Context} (datum : Datum) : HasKind context (.datum datum) .plain
  | ref {context : Context} {name : String} {kind : Kind}
      (found : context.lookup name = some kind) : HasKind context (.ref name) kind
  | letIn {context : Context} {name : String} {value body : Expr} {bound kind : Kind}
      (typedValue : HasKind context value bound)
      (typedBody : HasKind ((name, bound) :: context) body kind) :
      HasKind context (.letIn name value body) kind
  | list {context : Context} {items : List Expr} {kind : Kind}
      (typedItems : ∀ item ∈ items, HasKind context item kind) :
      HasKind context (.list items) (.list kind)
  | data {context : Context} (shape values : Datum) :
      HasKind context (.data shape values) (.tensor .plain)
  | tensor {context : Context} (shape : Datum) {elems : List Expr} {kind : Kind}
      (typedElems : ∀ item ∈ elems, HasKind context item kind) :
      HasKind context (.tensor shape elems) (.tensor kind)
  | constant {context : Context} (shape : Datum) {value : Expr} {kind : Kind}
      (typedValue : HasKind context value kind) :
      HasKind context (.constant shape value) (.tensor kind)
  | cell {context : Context} {source : Expr} (index : Datum) {whole kind : Kind}
      (collects : whole.Collects kind) (typedSource : HasKind context source whole) :
      HasKind context (.cell source index) kind
  | plainCell {context : Context} {source : Expr} (index : Datum)
      (typedSource : HasKind context source .plain) : HasKind context (.cell source index) .plain
  | item {context : Context} {source : Expr} {kind : Kind}
      (typedSource : HasKind context source (.tensor kind)) : HasKind context (.item source) kind
  | reshape {context : Context} {source : Expr} (shape axes : Datum) {kind : Kind}
      (typedSource : HasKind context source (.tensor kind)) :
      HasKind context (.reshape source shape axes) (.tensor kind)
  | diagonal {context : Context} {source default : Expr} (axes : Datum) {kind : Kind}
      (typedSource : HasKind context source (.tensor kind))
      (typedDefault : HasKind context default kind) :
      HasKind context (.diagonal source axes default) (.tensor kind)
  | unstack {context : Context} {source : Expr} {kind : Kind}
      (typedSource : HasKind context source (.tensor kind)) :
      HasKind context (.unstack source) (.list (.tensor kind))
  | stack {context : Context} {sources : Expr} (shape : Option Datum) {whole kind : Kind}
      (collects : whole.Collects (.tensor kind)) (typedSources : HasKind context sources whole) :
      HasKind context (.stack sources shape) (.tensor kind)
  | concat {context : Context} {left right : Expr} {kind : Kind}
      (typedLeft : HasKind context left (.tensor kind))
      (typedRight : HasKind context right (.tensor kind)) :
      HasKind context (.concat left right) (.tensor kind)
  | contract {context : Context} (contraction : ContractionKind) {sources : List Expr}
      (labels : List Datum) (output : Datum)
      (typedSources : ∀ source ∈ sources, HasKind context source (.tensor .elem)) :
      HasKind context (.contract contraction sources labels output) (.tensor .elem)
  | fold {context : Context} (aggregate : Aggregate) {source : Expr} (count : Option Datum)
      (typedSource : HasKind context source (.tensor .elem)) :
      HasKind context (.fold aggregate source count) (.tensor .elem)
  | neg {context : Context} {operand : Expr} (typedOperand : HasKind context operand .elem) :
      HasKind context (.neg operand) .elem
  | connective {context : Context} (connective : Connective) {left right : Expr}
      (typedLeft : HasKind context left .elem) (typedRight : HasKind context right .elem) :
      HasKind context (.connective connective left right) .elem
  | aggregate {context : Context} (aggregate : Aggregate) {elements : Expr} {whole : Kind}
      (collects : whole.Collects .elem) (typedElements : HasKind context elements whole) :
      HasKind context (.aggregate aggregate elements) .elem
  | compare {context : Context} (comparison : Comparison) {lefts rights : Expr}
      {whole wholeRight : Kind} (collects : whole.Collects .elem)
      (collectsRight : wholeRight.Collects .elem) (typedLefts : HasKind context lefts whole)
      (typedRights : HasKind context rights wholeRight) :
      HasKind context (.compare comparison lefts rights) .elem
  | negTensor {context : Context} {source : Expr}
      (typedSource : HasKind context source (.tensor .elem)) :
      HasKind context (.negTensor source) (.tensor .elem)
  | liftTensor {context : Context} {source : Expr}
      (typedSource : HasKind context source (.tensor .plain)) :
      HasKind context (.liftTensor source) (.tensor .elem)
  | connectiveTensor {context : Context} (connective : Connective) {left right : Expr}
      (typedLeft : HasKind context left (.tensor .elem))
      (typedRight : HasKind context right (.tensor .elem)) :
      HasKind context (.connectiveTensor connective left right) (.tensor .elem)

namespace Value

variable {β : Type}

theorem ofData_eq_map (data : List Datum) : (ofData data : List (Value β)) = data.map ofDatum := by
  induction data with
  | nil => rfl
  | cons datum data hypothesis => rw [ofData, hypothesis, List.map_cons]

mutual

/-- What has come into being of a datum is a datum again, the same one over all elements. -/
theorem exists_placed_ofDatum (site : Site) (datum : Datum) :
    ∃ other : Datum, ∀ β : Type, (ofDatum datum : Value β).placed site = ofDatum other := by
  match datum with
  | .scalar none value =>
      exact ⟨.scalar (if value.isUnique then none else some site) value, fun _ => rfl⟩
  | .scalar (some mark) value => exact ⟨.scalar (some mark) value, fun _ => rfl⟩
  | .list none items =>
      obtain ⟨others, same⟩ := exists_placedAll_ofData site.parts 0 items
      refine ⟨.list (some site) others, fun β => ?_⟩
      rw [ofDatum, placed, same β, ofDatum]
  | .list (some mark) items => exact ⟨.list (some mark) items, fun _ => rfl⟩

theorem exists_placedAll_ofData (site : Site) (number : Nat) (data : List Datum) :
    ∃ others : List Datum, ∀ β : Type,
      (placedAll site number (ofData data) : List (Value β)) = ofData others := by
  match data with
  | [] => exact ⟨[], fun _ => rfl⟩
  | datum :: data =>
      obtain ⟨other, same⟩ := exists_placed_ofDatum (number :: site) datum
      obtain ⟨others, sameRest⟩ := exists_placedAll_ofData site (number + 1) data
      refine ⟨other :: others, fun β => ?_⟩
      rw [ofData, placedAll, same β, sameRest β, ofData]

end

/-- A value for a tensor with as many elements as its shape says is that tensor. -/
theorem tensor?_of_counted {mark : Mark} {shape : Shape} {elems : List (Value β)}
    (counted : elems.length = shape.size) :
    (Value.tensor mark shape elems).tensor? = some (Tensor.ofList shape elems counted) :=
  dif_pos counted

/-- A value for a tensor with a wrong number of elements is none. -/
theorem tensor?_of_miscounted {mark : Mark} {shape : Shape} {elems : List (Value β)}
    (miscounted : elems.length ≠ shape.size) : (Value.tensor mark shape elems).tensor? = none :=
  dif_neg miscounted

end Value

namespace Position

variable {α β : Type}

theorem place_cast {length other : Nat} (same : length = other) (position : Int) (outside : Fault) :
    place other position outside = (place length position outside).map (Fin.cast same) := by
  subst same
  cases place length position outside <;> rfl

theorem member_map (function : α → β) (items : List α) (position : Int) (outside : Fault) :
    member (items.map function) position outside =
      (member items position outside).map function := by
  unfold member
  rw [place_cast (List.length_map function).symm]
  cases place items.length position outside with
  | error fault => rfl
  | ok found => exact congrArg Except.ok (List.getElem_map function)

/-- The member at a position is found or missed in both of two related lists. -/
theorem member_related {Relation : α → β → Prop} {lefts : List α} {rights : List β}
    (related : List.Forall₂ Relation lefts rights) (position : Int) (outside : Fault) :
    SameOutcome Relation (member lefts position outside) (member rights position outside) := by
  obtain ⟨pairs, rfl, rfl⟩ := exists_paired related
  rw [member_map, member_map]
  exact .of_map _ Subtype.property

end Position

namespace Kind

variable {β γ : Type}

/-- Two values of a kind have the same structure and the same data in it, and the truth values at the
same place are related. -/
def Relates (Element : Value β → Value γ → Prop) : Kind → Value β → Value γ → Prop
  | elem => Element
  | plain => fun left right => ∃ datum : Datum, left = .ofDatum datum ∧ right = .ofDatum datum
  | list member => fun left right => ∃ mark lefts rights,
      left = .list mark lefts ∧ right = .list mark rights ∧
        List.Forall₂ (member.Relates Element) lefts rights
  | tensor member => fun left right => ∃ mark shape lefts rights,
      left = .tensor mark shape lefts ∧ right = .tensor mark shape rights ∧
        List.Forall₂ (member.Relates Element) lefts rights

namespace Relates

variable {Element : Value β → Value γ → Prop} {kind : Kind} {left : Value β} {right : Value γ}

/-- Related values are related by anything weaker. -/
theorem mono {Weaker : Value β → Value γ → Prop}
    (weaker : ∀ first second, Element first second → Weaker first second)
    (related : kind.Relates Element left right) : kind.Relates Weaker left right := by
  induction kind generalizing left right with
  | elem => exact weaker left right related
  | plain => exact related
  | list member hypothesis =>
      obtain ⟨mark, lefts, rights, isLeft, isRight, members⟩ := related
      exact ⟨mark, lefts, rights, isLeft, isRight, members.imp fun _ _ => hypothesis⟩
  | tensor member hypothesis =>
      obtain ⟨mark, shape, lefts, rights, isLeft, isRight, members⟩ := related
      exact ⟨mark, shape, lefts, rights, isLeft, isRight, members.imp fun _ _ => hypothesis⟩

theorem ofTensor {tensor : Tensor (Value β)} {other : Tensor (Value γ)}
    (related : Tensor.Related (kind.Relates Element) tensor other) :
    (Kind.tensor kind).Relates Element (.ofTensor tensor) (.ofTensor other) := by
  refine ⟨none, tensor.shape, tensor.toList, other.toList, rfl, ?_, related.elements⟩
  rw [related.shape_eq]
  rfl

/-- Two related values of a kind of tensors are both no tensors, or are related tensors. -/
theorem of_tensor? (related : (Kind.tensor kind).Relates Element left right) :
    left.tensor? = none ∧ right.tensor? = none ∨
      ∃ tensor other, left.tensor? = some tensor ∧ right.tensor? = some other ∧
        Tensor.Related (kind.Relates Element) tensor other := by
  obtain ⟨mark, shape, lefts, rights, rfl, rfl, members⟩ := related
  by_cases counted : lefts.length = shape.size
  · have countedRight : rights.length = shape.size := by rw [← members.length_eq, counted]
    exact Or.inr ⟨_, _, Value.tensor?_of_counted counted, Value.tensor?_of_counted countedRight,
      rfl, members⟩
  · have miscounted : rights.length ≠ shape.size := by
      rw [← members.length_eq]
      exact counted
    exact Or.inl ⟨Value.tensor?_of_miscounted counted, Value.tensor?_of_miscounted miscounted⟩

theorem tensorFor (related : (Kind.tensor kind).Relates Element left right) (member : String) :
    SameOutcome (Tensor.Related (kind.Relates Element)) (left.tensorFor member)
      (right.tensorFor member) := by
  have sameKind : left.kind = right.kind := by
    obtain ⟨mark, shape, lefts, rights, rfl, rfl, _⟩ := related
    rfl
  unfold Value.tensorFor
  rcases related.of_tensor? with ⟨noLeft, noRight⟩ | ⟨tensor, other, isLeft, isRight, alike⟩
  · rw [noLeft, noRight, sameKind]
    exact .error _
  · rw [isLeft, isRight]
    exact .ok alike

theorem asTensor (related : (Kind.tensor kind).Relates Element left right) :
    SameOutcome (Tensor.Related (kind.Relates Element)) left.asTensor right.asTensor := by
  unfold Value.asTensor
  rcases related.of_tensor? with ⟨noLeft, noRight⟩ | ⟨tensor, other, isLeft, isRight, alike⟩
  · rw [noLeft, noRight]
    exact .error _
  · rw [isLeft, isRight]
    exact .ok alike

/-- Related values are gone through in related members, or both cannot be gone through. -/
theorem sequence {whole : Kind} (collects : whole.Collects kind)
    (related : whole.Relates Element left right) :
    SameOutcome (List.Forall₂ (kind.Relates Element)) left.sequence right.sequence := by
  cases collects with
  | list =>
      obtain ⟨mark, lefts, rights, rfl, rfl, members⟩ := related
      exact .ok members
  | tensor =>
      obtain ⟨mark, shape, lefts, rights, rfl, rfl, members⟩ := related
      exact .ok members

/-- A cell of related values is found or missed in both, and the two cells are related. -/
theorem cell {whole : Kind} (collects : whole.Collects kind)
    (related : whole.Relates Element left right) (index : Datum) :
    SameOutcome (kind.Relates Element) (left.cell index) (right.cell index) := by
  cases collects with
  | list =>
      obtain ⟨mark, lefts, rights, rfl, rfl, members⟩ := related
      unfold Value.cell
      cases index.integer? with
      | none => exact .error _
      | some position => exact Position.member_related members position .listRange
  | tensor =>
      have alike := related.asTensor
      obtain ⟨mark, shape, lefts, rights, rfl, rfl, members⟩ := related
      unfold Value.cell
      refine alike.bind fun first second tensors => ?_
      exact .bindSame _ fun coordinates => tensors.lookup coordinates

/-- The members of a datum are data. -/
theorem plainCell (related : Kind.plain.Relates Element left right) (index : Datum) :
    SameOutcome (Kind.plain.Relates Element) (left.cell index) (right.cell index) := by
  obtain ⟨datum, rfl, rfl⟩ := related
  cases datum with
  | list mark items =>
      have members : List.Forall₂ (Kind.plain.Relates Element) (Value.ofData items)
          (Value.ofData items) := by
        rw [Value.ofData_eq_map, Value.ofData_eq_map]
        exact forall₂_map_map fun item => ⟨item, rfl, rfl⟩
      have relatedList : (Kind.list .plain).Relates Element (.list mark (Value.ofData items))
          (.list mark (Value.ofData items)) := ⟨mark, _, _, rfl, rfl, members⟩
      rw [Value.ofDatum, Value.ofDatum]
      exact relatedList.cell (.list .plain) index
  | scalar mark value =>
      cases value with
      | str text =>
          have members : List.Forall₂ (Kind.plain.Relates Element)
              ((Text.characters text).map Value.str) ((Text.characters text).map Value.str) :=
            forall₂_map_map fun character => ⟨.str character, rfl, rfl⟩
          unfold Value.cell
          simp only [Value.ofDatum, Value.items?]
          cases index.integer? with
          | none => exact .error _
          | some position => exact Position.member_related members position .textRange
      | null => exact .error _
      | bool => exact .error _
      | int => exact .error _
      | fraction => exact .error _

/-- Data count as true or false whatever they are used with. -/
theorem truth_eq (related : Kind.plain.Relates Element left right) : left.truth = right.truth := by
  obtain ⟨datum, rfl, rfl⟩ := related
  cases datum with
  | scalar mark value => rfl
  | list mark items =>
      simp only [Value.ofDatum, Value.truth, Value.ofData_eq_map, List.isEmpty_map]

/-! ## Values that have come into being at a site -/

theorem placedAll_of {member : Kind}
    (placedMember : ∀ {first second} (site : Site), member.Relates Element first second →
      member.Relates Element (first.placed site) (second.placed site))
    (site : Site) (number : Nat) {lefts : List (Value β)} {rights : List (Value γ)}
    (members : List.Forall₂ (member.Relates Element) lefts rights) :
    List.Forall₂ (member.Relates Element) (Value.placedAll site number lefts)
      (Value.placedAll site number rights) := by
  induction members generalizing number with
  | nil => exact .nil
  | cons head _ hypothesis =>
      rw [Value.placedAll, Value.placedAll]
      exact .cons (placedMember _ head) (hypothesis (number + 1))

variable (fixed : ∀ first second site, Element first second →
  first.placed site = first ∧ second.placed site = second)

include fixed

/-- Placing does not matter to the relation, which does not look at where a value came into being. -/
theorem placed (site : Site) (related : kind.Relates Element left right) :
    kind.Relates Element (left.placed site) (right.placed site) := by
  induction kind generalizing left right site with
  | elem =>
      obtain ⟨sameLeft, sameRight⟩ := fixed left right site related
      rw [sameLeft, sameRight]
      exact related
  | plain =>
      obtain ⟨datum, rfl, rfl⟩ := related
      obtain ⟨other, same⟩ := Value.exists_placed_ofDatum site datum
      exact ⟨other, same β, same γ⟩
  | list member hypothesis =>
      obtain ⟨mark, lefts, rights, rfl, rfl, members⟩ := related
      cases mark with
      | some mark => exact ⟨some mark, lefts, rights, rfl, rfl, members⟩
      | none =>
          rw [Value.placed, Value.placed]
          exact ⟨some site, _, _, rfl, rfl, placedAll_of hypothesis site.parts 0 members⟩
  | tensor member hypothesis =>
      obtain ⟨mark, shape, lefts, rights, rfl, rfl, members⟩ := related
      cases mark with
      | some mark => exact ⟨some mark, shape, lefts, rights, rfl, rfl, members⟩
      | none =>
          rw [Value.placed, Value.placed]
          exact ⟨some site, shape, _, _, rfl, rfl, placedAll_of hypothesis site.parts 0 members⟩

theorem sequenceAt {whole : Kind} (collects : whole.Collects kind) (site : Site)
    (related : whole.Relates Element left right) :
    SameOutcome (List.Forall₂ (kind.Relates Element)) (left.sequenceAt site)
      (right.sequenceAt site) := by
  unfold Value.sequenceAt
  exact (related.sequence collects).bind fun firsts seconds members =>
    .ok (placedAll_of (placed fixed) site 0 members)

end Relates

end Kind

end TensorLogic
