/-
Module: TensorLogic.Proofs.Expr.Alike
Purpose: Values of any structure that differ in their elements only, and how what is read of values treats
  them alike.
Main exports: Value.Alike, Value.Alike.placed, Value.Alike.tensorFor, Value.Alike.sequence,
  Value.Alike.cell, Value.Alike.text_eq, Value.elements, Value.alike_self, Value.eq_of_alike
-/
import TensorLogic.Proofs.Expr.Kind

namespace TensorLogic

variable {β γ : Type}

namespace Value

/-- Two values have the same structure and the same data in it, and the elements at the same place are
related.  Nothing is said of what the values are. -/
inductive Alike (Twin : β → γ → Prop) : Value β → Value γ → Prop where
  | scalar (mark : Mark) (value : Scalar) : Alike Twin (.scalar mark value) (.scalar mark value)
  | list (mark : Mark) {lefts : List (Value β)} {rights : List (Value γ)}
      (members : List.Forall₂ (Alike Twin) lefts rights) :
      Alike Twin (.list mark lefts) (.list mark rights)
  | tensor (mark : Mark) (shape : Shape) {lefts : List (Value β)} {rights : List (Value γ)}
      (members : List.Forall₂ (Alike Twin) lefts rights) :
      Alike Twin (.tensor mark shape lefts) (.tensor mark shape rights)
  | elem {first : β} {second : γ} (twin : Twin first second) :
      Alike Twin (.elem first) (.elem second)

mutual

/-- The elements in a value, in order. -/
def elements : Value β → List β
  | scalar .. => []
  | list _ items => elementsAll items
  | tensor _ _ elems => elementsAll elems
  | elem element => [element]

/-- The elements in values, in order. -/
def elementsAll : List (Value β) → List β
  | [] => []
  | value :: values => elements value ++ elementsAll values

end

namespace Alike

variable {Twin : β → γ → Prop} {left : Value β} {right : Value γ}

mutual

/-- Values that are alike up to a relation are alike up to any weaker one. -/
theorem mono {Weaker : β → γ → Prop} (weaker : ∀ first second, Twin first second →
    Weaker first second) {left : Value β} {right : Value γ} (alike : Alike Twin left right) :
    Alike Weaker left right := by
  match left, alike with
  | .scalar _ _, .scalar mark value => exact .scalar mark value
  | .list _ items, .list mark members => exact .list mark (monoAll weaker items members)
  | .tensor _ _ elems, .tensor mark shape members =>
      exact .tensor mark shape (monoAll weaker elems members)
  | .elem _, .elem twin => exact .elem (weaker _ _ twin)

theorem monoAll {Weaker : β → γ → Prop} (weaker : ∀ first second, Twin first second →
    Weaker first second) (lefts : List (Value β)) {rights : List (Value γ)}
    (members : List.Forall₂ (Alike Twin) lefts rights) :
    List.Forall₂ (Alike Weaker) lefts rights := by
  match lefts, members with
  | [], .nil => exact .nil
  | _ :: rest, .cons head tail => exact .cons (mono weaker head) (monoAll weaker rest tail)

end

mutual

/-- A datum is alike whatever the elements are. -/
theorem ofDatum (datum : Datum) : Alike Twin (.ofDatum datum) (.ofDatum datum) := by
  match datum with
  | .scalar mark value => exact .scalar mark value
  | .list mark items => exact .list mark (ofData items)

theorem ofData (data : List Datum) :
    List.Forall₂ (Alike Twin) (Value.ofData data) (Value.ofData data) := by
  match data with
  | [] => exact .nil
  | datum :: rest => exact .cons (ofDatum datum) (ofData rest)

end

mutual

/-- What has come into being at the same site is alike. -/
theorem placed {left : Value β} {right : Value γ} (site : Site) (alike : Alike Twin left right) :
    Alike Twin (left.placed site) (right.placed site) := by
  match left, alike with
  | .scalar none _, .scalar _ value => exact .scalar _ value
  | .scalar (some _) _, .scalar _ value => exact .scalar _ value
  | .list none items, .list _ members =>
      rw [Value.placed, Value.placed]
      exact .list (some site) (placedAll site.parts 0 items members)
  | .list (some _) _, .list _ members => exact .list _ members
  | .tensor none _ elems, .tensor _ shape members =>
      rw [Value.placed, Value.placed]
      exact .tensor (some site) shape (placedAll site.parts 0 elems members)
  | .tensor (some _) _ _, .tensor _ shape members => exact .tensor _ shape members
  | .elem _, .elem twin => exact .elem twin

theorem placedAll (site : Site) (number : Nat) (lefts : List (Value β)) {rights : List (Value γ)}
    (members : List.Forall₂ (Alike Twin) lefts rights) :
    List.Forall₂ (Alike Twin) (Value.placedAll site number lefts)
      (Value.placedAll site number rights) := by
  match lefts, members with
  | [], .nil => exact .nil
  | _ :: rest, .cons head tail =>
      rw [Value.placedAll, Value.placedAll]
      exact .cons (placed (number :: site) head) (placedAll site (number + 1) rest tail)

end

mutual

/-- Alike values are written alike if their elements are. -/
theorem text_eq {write : β → String} {writeRight : γ → String}
    (same : ∀ first second, Twin first second → write first = writeRight second)
    {left : Value β} {right : Value γ} (alike : Alike Twin left right) :
    left.text write = right.text writeRight := by
  match left, alike with
  | .scalar _ _, .scalar _ _ => rfl
  | .list _ items, .list _ members => rw [text, text, texts_eq same items members]
  | .tensor _ _ _, .tensor _ _ _ => rfl
  | .elem _, .elem twin => exact same _ _ twin

/-- Lists of values that are alike are written alike where their elements are. -/
theorem texts_eq {write : β → String} {writeRight : γ → String}
    (same : ∀ first second, Twin first second → write first = writeRight second)
    (lefts : List (Value β)) {rights : List (Value γ)}
    (members : List.Forall₂ (Alike Twin) lefts rights) :
    texts write lefts = texts writeRight rights := by
  match lefts, members with
  | [], .nil => rfl
  | _ :: rest, .cons head tail => rw [texts, texts, text_eq same head, texts_eq same rest tail]

end

/-! ## What is read of a value -/

/-- Values that are alike have the same truth. -/
theorem truth_eq (alike : Alike Twin left right) : left.truth = right.truth := by
  cases alike with
  | scalar => rfl
  | list mark members =>
      cases members <;> rfl
  | tensor => rfl
  | elem => rfl

theorem ofTensor {tensor : Tensor (Value β)} {other : Tensor (Value γ)}
    (related : Tensor.Related (Alike Twin) tensor other) :
    Alike Twin (.ofTensor tensor) (.ofTensor other) := by
  unfold Value.ofTensor
  rw [related.shape_eq]
  exact .tensor none other.shape related.elements

/-- A tensor of values is one of the values of any structure. -/
theorem relates_of_tensor {mark : Mark} {shape : Shape} {lefts : List (Value β)}
    {rights : List (Value γ)} (members : List.Forall₂ (Alike Twin) lefts rights) :
    (Kind.tensor .elem).Relates (Alike Twin) (.tensor mark shape lefts)
      (.tensor mark shape rights) :=
  ⟨mark, shape, lefts, rights, rfl, rfl, members⟩

/-- What is asked of tensors is had or missed by both of two values that are alike. -/
theorem tensorFor (alike : Alike Twin left right) (member : String) :
    SameOutcome (Tensor.Related (Alike Twin)) (left.tensorFor member) (right.tensorFor member) := by
  cases alike with
  | tensor mark shape members => exact (relates_of_tensor members).tensorFor member
  | scalar => exact .error _
  | list => exact .error _
  | elem => exact .error _

theorem asTensor (alike : Alike Twin left right) :
    SameOutcome (Tensor.Related (Alike Twin)) left.asTensor right.asTensor := by
  cases alike with
  | tensor mark shape members => exact (relates_of_tensor members).asTensor
  | scalar => exact .error _
  | list => exact .error _
  | elem => exact .error _

/-- Values that are alike are gone through alike, or both cannot be gone through. -/
theorem sequence (alike : Alike Twin left right) :
    SameOutcome (List.Forall₂ (Alike Twin)) left.sequence right.sequence := by
  cases alike with
  | list mark members => exact .ok members
  | tensor mark shape members => exact .ok members
  | elem => exact .error _
  | scalar mark value =>
      cases value with
      | str text => exact .ok (forall₂_map_map fun character => .scalar none (.str character))
      | null => exact .error _
      | bool => exact .error _
      | int => exact .error _
      | fraction => exact .error _

theorem sequenceAt (alike : Alike Twin left right) (site : Site) :
    SameOutcome (List.Forall₂ (Alike Twin)) (left.sequenceAt site) (right.sequenceAt site) := by
  unfold Value.sequenceAt
  exact alike.sequence.bind fun firsts _ members => .ok (placedAll site 0 firsts members)

/-- A cell of values that are alike is found or missed in both, and the two cells are alike. -/
theorem cell (alike : Alike Twin left right) (index : Datum) :
    SameOutcome (Alike Twin) (left.cell index) (right.cell index) := by
  cases alike with
  | tensor mark shape members => exact (relates_of_tensor members).cell (.tensor .elem) index
  | list mark members =>
      have related : (Kind.list .elem).Relates (Alike Twin) (.list mark _) (.list mark _) :=
        ⟨mark, _, _, rfl, rfl, members⟩
      exact related.cell (.list .elem) index
  | elem => exact .error _
  | scalar mark value =>
      cases value with
      | str text =>
          have members : List.Forall₂ (Alike Twin) ((Text.characters text).map Value.str)
              ((Text.characters text).map Value.str) :=
            forall₂_map_map fun character => .scalar none (.str character)
          unfold Value.cell
          simp only [Value.items?]
          cases index.integer? with
          | none => exact .error _
          | some position => exact Position.member_related members position .textRange
      | null => exact .error _
      | bool => exact .error _
      | int => exact .error _
      | fraction => exact .error _

end Alike

/-! ## Values that differ in nothing -/

variable {Allowed : β → Prop}

mutual

/-- A value is like itself, with elements that have some property, if all of its elements do. -/
theorem alike_self (value : Value β) (allowed : ∀ element ∈ value.elements, Allowed element) :
    Alike (fun first second => first = second ∧ Allowed first) value value := by
  match value with
  | .scalar mark value => exact .scalar mark value
  | .list mark items => exact .list mark (alikeAll_self items allowed)
  | .tensor mark shape elems => exact .tensor mark shape (alikeAll_self elems allowed)
  | .elem element => exact .elem ⟨rfl, allowed element List.mem_cons_self⟩

/-- Values whose elements are all allowed are alike to themselves. -/
theorem alikeAll_self (values : List (Value β))
    (allowed : ∀ element ∈ elementsAll values, Allowed element) :
    List.Forall₂ (Alike fun first second => first = second ∧ Allowed first) values values := by
  match values with
  | [] => exact .nil
  | value :: rest =>
      rw [elementsAll] at allowed
      exact .cons (alike_self value fun element inside => allowed element (List.mem_append_left _ inside))
        (alikeAll_self rest fun element inside => allowed element (List.mem_append_right _ inside))

end

mutual

/-- Values that are alike by equality are equal, and their elements are those that the relation allows. -/
theorem eq_of_alike {left right : Value β}
    (alike : Alike (fun first second => first = second ∧ Allowed first) left right) :
    left = right ∧ ∀ element ∈ left.elements, Allowed element := by
  match left, alike with
  | .scalar _ _, .scalar _ _ => exact ⟨rfl, fun _ impossible => (nomatch impossible)⟩
  | .list _ items, .list mark members =>
      obtain ⟨rfl, allowed⟩ := eq_of_alikeAll items members
      exact ⟨rfl, allowed⟩
  | .tensor _ _ elems, .tensor mark shape members =>
      obtain ⟨rfl, allowed⟩ := eq_of_alikeAll elems members
      exact ⟨rfl, allowed⟩
  | .elem _, .elem twin =>
      obtain ⟨rfl, allowed⟩ := twin
      exact ⟨rfl, fun element inside => List.mem_singleton.1 inside ▸ allowed⟩

theorem eq_of_alikeAll (lefts : List (Value β)) {rights : List (Value β)}
    (members : List.Forall₂ (Alike fun first second => first = second ∧ Allowed first) lefts rights) :
    lefts = rights ∧ ∀ element ∈ elementsAll lefts, Allowed element := by
  match lefts, members with
  | [], .nil => exact ⟨rfl, fun _ impossible => (nomatch impossible)⟩
  | first :: rest, .cons head tail =>
      obtain ⟨rfl, allowed⟩ := eq_of_alike head
      obtain ⟨rfl, allowedRest⟩ := eq_of_alikeAll rest tail
      refine ⟨rfl, fun element inside => ?_⟩
      rw [elementsAll] at inside
      exact (List.mem_append.1 inside).elim (allowed element) (allowedRest element)

end

end Value

end TensorLogic
