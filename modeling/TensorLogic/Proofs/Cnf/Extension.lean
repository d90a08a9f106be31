/-
Module: TensorLogic.Proofs.Cnf.Extension
Purpose: Assignments that agree on some variables, and formulas whose models extend to models of larger
  formulas.
Main exports: Assignment.AgreeUpTo, Formula.eval_congr, Formula.eval_of_extended,
  Formula.ExtendsUniquely
-/
import TensorLogic.Cnf.Basic

namespace TensorLogic

/-- Two assignments give the same values to the variables up to a number. -/
def Assignment.AgreeUpTo (number : Nat) (left right : Assignment) : Prop :=
  ∀ place, 0 < place → place ≤ number → left place = right place

theorem Assignment.AgreeUpTo.mono {less more : Nat} {left right : Assignment}
    (agree : AgreeUpTo more left right) (atMost : less ≤ more) : AgreeUpTo less left right :=
  fun place positive bound => agree place positive (Nat.le_trans bound atMost)

theorem Assignment.AgreeUpTo.symm {number : Nat} {left right : Assignment}
    (agree : AgreeUpTo number left right) : AgreeUpTo number right left :=
  fun place positive bound => (agree place positive bound).symm

theorem Assignment.AgreeUpTo.trans {number : Nat} {first second third : Assignment}
    (one : AgreeUpTo number first second) (two : AgreeUpTo number second third) :
    AgreeUpTo number first third :=
  fun place positive bound => (one place positive bound).trans (two place positive bound)

/-- A literal holds where its negation does not. -/
theorem Assignment.holds_neg (assignment : Assignment) {literal : Int} (nonzero : literal ≠ 0) :
    assignment.holds (-literal) = !assignment.holds literal := by
  unfold holds
  rw [Int.natAbs_neg]
  by_cases positive : 0 < literal
  · rw [if_neg (by omega), if_pos positive]
  · rw [if_pos (by omega), if_neg positive, Bool.not_not]

/-- A literal among some variables depends on these only. -/
theorem IsLiteral.holds_congr {number : Nat} {literal : Int} {left right : Assignment}
    (isLiteral : IsLiteral number literal) (agree : left.AgreeUpTo number right) :
    left.holds literal = right.holds literal := by
  unfold Assignment.holds
  rw [agree literal.natAbs (Int.natAbs_pos.2 isLiteral.1) isLiteral.2]

theorem IsLiteral.mono {less more : Nat} {literal : Int} (isLiteral : IsLiteral less literal)
    (atMost : less ≤ more) : IsLiteral more literal :=
  ⟨isLiteral.1, Nat.le_trans isLiteral.2 atMost⟩

namespace Formula

/-- A formula over some variables is one over more of them. -/
theorem IsOver.mono {less more : Nat} {formula : Formula} (isOver : formula.IsOver less)
    (atMost : less ≤ more) : formula.IsOver more :=
  fun clause inside literal member => (isOver clause inside literal member).mono atMost

/-- The value of a formula depends on its variables only. -/
theorem eval_congr {number : Nat} {formula : Formula} {left right : Assignment}
    (isOver : formula.IsOver number) (agree : left.AgreeUpTo number right) :
    formula.eval left = formula.eval right := by
  unfold eval Clause.eval
  rw [Bool.eq_iff_iff]
  simp only [List.all_eq_true, List.any_eq_true]
  constructor
  · intro holds clause inside
    obtain ⟨literal, member, isTrue⟩ := holds clause inside
    exact ⟨literal, member, ((isOver clause inside literal member).holds_congr agree) ▸ isTrue⟩
  · intro holds clause inside
    obtain ⟨literal, member, isTrue⟩ := holds clause inside
    exact ⟨literal, member, ((isOver clause inside literal member).holds_congr agree).symm ▸ isTrue⟩

/-- Two formulas hold together where each does. -/
theorem eval_append (left right : Formula) (assignment : Assignment) :
    eval assignment (left ++ right) = (eval assignment left && eval assignment right) := by
  simp [eval]

/-- Where a longer formula holds, what it goes on from does. -/
theorem eval_of_extended {before after : Formula} {assignment : Assignment}
    (extended : before <+: after) (holds : after.eval assignment = true) :
    before.eval assignment = true := by
  obtain ⟨rest, rfl⟩ := extended
  rw [eval_append, Bool.and_eq_true] at holds
  exact holds.1

/-- Every model of a formula extends to exactly one model of another one over more variables. -/
def ExtendsUniquely (number : Nat) (formula : Formula) (larger : Nat) (other : Formula) : Prop :=
  ∀ model : Assignment, formula.eval model = true →
    ∃ extension : Assignment, model.AgreeUpTo number extension ∧ other.eval extension = true ∧
      ∀ rival : Assignment, model.AgreeUpTo number rival → other.eval rival = true →
        extension.AgreeUpTo larger rival

theorem ExtendsUniquely.refl (number : Nat) (formula : Formula) :
    ExtendsUniquely number formula number formula :=
  fun model holds => ⟨model, fun _ _ _ => rfl, holds, fun _ agree _ => agree⟩

/-- Unique extensions may be taken one after the other. -/
theorem ExtendsUniquely.trans {number larger largest : Nat} {formula other last : Formula}
    (first : ExtendsUniquely number formula larger other)
    (second : ExtendsUniquely larger other largest last) (atMost : number ≤ larger)
    (extended : other <+: last) : ExtendsUniquely number formula largest last := by
  intro model holds
  obtain ⟨middle, agreeMiddle, holdsMiddle, onlyMiddle⟩ := first model holds
  obtain ⟨extension, agree, holdsExtension, only⟩ := second middle holdsMiddle
  refine ⟨extension, agreeMiddle.trans (agree.mono atMost), holdsExtension, ?_⟩
  intro rival agreeRival holdsRival
  have same := onlyMiddle rival agreeRival (eval_of_extended extended holdsRival)
  exact only rival same holdsRival

end Formula

end TensorLogic
