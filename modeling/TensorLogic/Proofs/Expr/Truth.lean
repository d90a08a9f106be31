/-
Module: TensorLogic.Proofs.Expr.Truth
Purpose: On plain truth values the outcome of an expression does not depend on the state, and nothing
  happens to the state but announcements.
Main exports: Truth.respects, Truth.uniform, Truth.keeps, Expr.HasKind.outcome_eq, Expr.keeps_truth
-/
import TensorLogic.Proofs.Algebra.Truth
import TensorLogic.Proofs.Expr.Passage
import TensorLogic.Proofs.Expr.Uniform

namespace TensorLogic

variable {σ τ β γ : Type}

namespace Truth

/-- Two values are the same truth value. -/
def Same (left : Value β) (right : Value γ) : Prop :=
  ∃ value : Bool, left = .bool value ∧ right = .bool value

/-- Lists of the same truth values are one list of them. -/
theorem exists_values {lefts : List (Value β)} {rights : List (Value γ)}
    (same : List.Forall₂ Same lefts rights) :
    ∃ values : List Bool, lefts = values.map (fun value => .bool value) ∧
      rights = values.map (fun value => .bool value) := by
  induction same with
  | nil => exact ⟨[], rfl, rfl⟩
  | cons head _ hypothesis =>
      obtain ⟨value, rfl, rfl⟩ := head
      obtain ⟨values, rfl, rfl⟩ := hypothesis
      exact ⟨value :: values, rfl, rfl⟩

/-- The elements for a truth value are the same. -/
theorem same_ofBool (value : Bool) : Same (ofBool value : Value β) (ofBool value : Value γ) :=
  ⟨value, Value.ofBool_eq value, Value.ofBool_eq value⟩

/-- The operations on truth values treat the same values alike in all states. -/
theorem respects [HasJournal σ] [HasJournal τ] :
    (algebra : BoolAlgebra σ (Value β)).Respects (Bridge.idle : Bridge σ τ) (fun _ => Same)
      (algebra : BoolAlgebra τ (Value γ)) where
  keeps := fun _ _ _ => ⟨trivial, trivial⟩
  stable := fun _ _ _ _ _ same => same
  fixed := by
    rintro _ _ _ site ⟨value, rfl, rfl⟩
    exact ⟨rfl, rfl⟩
  bot := fun _ _ => ⟨false, rfl, rfl⟩
  top := fun _ _ => ⟨true, rfl, rfl⟩
  lift := fun _ _ value => same_ofBool value
  neg := by
    rintro states _ _ ⟨value, rfl, rfl⟩
    rw [neg_eq, neg_eq]
    exact .pure (same_ofBool _)
  connective := by
    rintro connective states _ _ _ _ ⟨value, rfl, rfl⟩ ⟨other, rfl, rfl⟩
    rw [connective_eq, connective_eq]
    exact .pure (same_ofBool _)
  aggregate := by
    intro aggregate states lefts rights same
    obtain ⟨values, rfl, rfl⟩ := exists_values same
    rw [aggregate_eq, aggregate_eq, Value.values_bool, Value.values_bool]
    cases aggregate.eval values with
    | none => exact .throw _
    | some value => exact .pure (same_ofBool value)
  compare := by
    intro comparison states lefts rights others otherRights same sameRight
    obtain ⟨values, rfl, rfl⟩ := exists_values same
    obtain ⟨valuesRight, rfl, rfl⟩ := exists_values sameRight
    simp only [compare_eq, Value.values_bool, List.length_map]
    cases comparison.eval values valuesRight with
    | none => exact .throw _
    | some value => exact .pure (same_ofBool value)

theorem alike_ofBool {Twin : β → γ → Prop} (value : Bool) :
    Value.Alike Twin (ofBool value : Value β) (ofBool value : Value γ) := by
  rw [Value.ofBool_eq, Value.ofBool_eq]
  exact .scalar none (.bool value)

/-- Lists of values that are alike have the same truth, member by member. -/
theorem values_alike {Twin : β → γ → Prop} {lefts : List (Value β)} {rights : List (Value γ)}
    (members : List.Forall₂ (Value.Alike Twin) lefts rights) : values lefts = values rights := by
  unfold values
  rw [← List.forall₂_eq_eq_eq, List.forall₂_map_left_iff, List.forall₂_map_right_iff]
  exact members.imp fun _ _ => Value.Alike.truth_eq

/-- The operations look at nothing but what values count as, and give the same truth values for alike values
of any structure. -/
theorem uniform {bridge : Bridge σ τ} {Twin : σ × τ → β → γ → Prop} :
    (algebra : BoolAlgebra σ (Value β)).Uniform bridge (fun states => Value.Alike (Twin states))
      (algebra : BoolAlgebra τ (Value γ)) where
  bot := fun _ _ => .scalar none (.bool false)
  top := fun _ _ => .scalar none (.bool true)
  lift := fun _ _ value => alike_ofBool value
  neg := by
    intro states first second alike
    have same : TruthValued.truth first = TruthValued.truth second := alike.truth_eq
    rw [neg_eq, neg_eq, same]
    exact .pure (alike_ofBool _)
  connective := by
    intro connective states first second third fourth alike further
    have same : TruthValued.truth first = TruthValued.truth second := alike.truth_eq
    have sameFurther : TruthValued.truth third = TruthValued.truth fourth := further.truth_eq
    rw [connective_eq, connective_eq, same, sameFurther]
    exact .pure (alike_ofBool _)
  aggregate := by
    intro aggregate states lefts rights members
    rw [aggregate_eq, aggregate_eq, values_alike members]
    cases aggregate.eval (values rights) with
    | none => exact .throw _
    | some value => exact .pure (alike_ofBool value)
  compare := by
    intro comparison states lefts rights others otherRights members further
    rw [compare_eq, compare_eq, values_alike members, values_alike further, members.length_eq,
      further.length_eq]
    cases comparison.eval (values rights) (values otherRights) with
    | none => exact .throw _
    | some value => exact .pure (alike_ofBool value)

/-- The operations on truth values leave every state as it is. -/
theorem keeps (passage : Passage σ) {V : Type} [TruthValued V] :
    (algebra : BoolAlgebra σ V).Keeps passage where
  neg := fun element => .pure (ofBool !TruthValued.truth element)
  connective := by
    intro connective left right
    rw [connective_eq]
    exact .pure _
  aggregate := by
    intro aggregate elements
    rw [aggregate_eq]
    split
    · exact .pure _
    · exact .throw _
  compare := by
    intro comparison lefts rights
    rw [compare_eq]
    split
    · exact .pure _
    · exact .throw _

end Truth

/-- Values that differ in no element are equal. -/
theorem Kind.Relates.eq {Element : Value β → Value β → Prop} {kind : Kind} {left right : Value β}
    (related : kind.Relates Element left right)
    (only : ∀ first second, Element first second → first = second) : left = right := by
  induction kind generalizing left right with
  | elem => exact only left right related
  | plain =>
      obtain ⟨datum, rfl, rfl⟩ := related
      rfl
  | list member hypothesis =>
      obtain ⟨mark, lefts, rights, rfl, rfl, members⟩ := related
      have equal := members.imp fun _ _ => hypothesis
      rw [List.forall₂_eq_eq_eq] at equal
      rw [equal]
  | tensor member hypothesis =>
      obtain ⟨mark, shape, lefts, rights, rfl, rfl, members⟩ := related
      have equal := members.imp fun _ _ => hypothesis
      rw [List.forall₂_eq_eq_eq] at equal
      rw [equal]

namespace Expr

variable [HasJournal σ] [HasJournal τ] {context : Context} {expression : Expr} {kind : Kind}

/-- The outcome of an expression on truth values is the same in all states. -/
theorem HasKind.outcome_eq [Platform] (typed : HasKind context expression kind) {environment : Environment β}
    (related : Environment.Related Truth.Same context environment environment) (site : Site)
    (state : σ) (other : τ) :
    ((expression.eval { algebra := Truth.algebra } environment site).runOn state).1 =
      ((expression.eval { algebra := Truth.algebra } environment site).runOn other).1 := by
  have agrees : Agrees (Bridge.idle : Bridge σ τ) (fun _ => Truth.Same)
      { algebra := (Truth.algebra : BoolAlgebra σ (Value β)) }
      { algebra := (Truth.algebra : BoolAlgebra τ (Value β)) } context expression kind :=
    typed.agrees Truth.respects
  obtain ⟨_, _, same⟩ := agrees site (state, other) environment environment related trivial
  dsimp only at same
  generalize (Act.runOn _ state).1 = first at same ⊢
  generalize (Act.runOn _ other).1 = second at same ⊢
  cases same with
  | error fault => rfl
  | ok alike =>
      have equal := alike.eq fun one two ⟨value, isOne, isTwo⟩ => isOne.trans isTwo.symm
      rw [equal]

/-- Evaluation on truth values leads where announcements lead. -/
theorem keeps_truth [Platform] {passage : Passage σ}
    (notes : ∀ event state, passage.Reaches state (HasJournal.note event state))
    (environment : Environment β) (site : Site) (expression : Expr) :
    passage.Keeps (expression.eval { algebra := Truth.algebra } environment site) :=
  keeps_eval ⟨notes, Truth.keeps passage⟩ environment site expression

end Expr

end TensorLogic
