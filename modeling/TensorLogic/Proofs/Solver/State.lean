/-
Module: TensorLogic.Proofs.Solver.State
Purpose: Which states a solver can be in, which literals it can use there, and what its operations do to
  the formula.
Main exports: Solver.Live, Solver.WellFormed, Solver.Grows, Solver.asserted, Solver.runOn_addClause,
  Solver.eval_asserted, Solver.runOn_newVariable
-/
import TensorLogic.Proofs.Cnf.Extension
import TensorLogic.Proofs.Effect.Run
import TensorLogic.Solver.Gates

namespace TensorLogic

/-- The value of a literal of a solver under an assignment to the variables of its formula. -/
def Assignment.value (assignment : Assignment) (literal : Lit) : Bool :=
  assignment.holds literal.code

theorem Assignment.value_top {assignment : Assignment} (isTop : assignment.holds 1 = true)
    (owner : Nat) : assignment.value (Solver.top owner) = true := isTop

theorem Assignment.value_bot {assignment : Assignment} (isTop : assignment.holds 1 = true)
    (owner : Nat) : assignment.value (Solver.bot owner) = false := by
  have flipped : assignment.holds (-1) = !assignment.holds 1 := assignment.holds_neg (by decide)
  rw [isTop] at flipped
  exact flipped

namespace Solver

/-- The literals that a solver can use: its two constants, and the variables allocated since it was last
cleared with their negations. -/
def Live (solver : Solver) (literal : Lit) : Prop :=
  literal.scope = .constants solver.owner ∧ (literal.code = 1 ∨ literal.code = -1) ∨
    literal.scope = .formula solver.owner solver.period ∧ 2 ≤ literal.code.natAbs ∧
      literal.code.natAbs ≤ solver.backend.numVars

/-- The formula is over the allocated variables, and says that the first of them is true. -/
structure WellFormed (solver : Solver) : Prop where
  isOver : solver.backend.formula.IsOver solver.backend.numVars
  asserts_top : [1] ∈ solver.backend.formula

/-- The formula has become longer, without a loss of models and without a choice for the new
variables. -/
structure Grows (before after : Solver) : Prop where
  owner_eq : after.owner = before.owner
  period_eq : after.period = before.period
  numVars_le : before.backend.numVars ≤ after.backend.numVars
  keeps_clauses : before.backend.formula <+: after.backend.formula
  extends_uniquely : Formula.ExtendsUniquely before.backend.numVars before.backend.formula
    after.backend.numVars after.backend.formula

theorem Grows.refl (solver : Solver) : solver.Grows solver :=
  ⟨rfl, rfl, Nat.le_refl _, List.prefix_refl _, .refl _ _⟩

/-- What grows twice grows. -/
theorem Grows.trans {first second third : Solver} (one : first.Grows second)
    (two : second.Grows third) : first.Grows third where
  owner_eq := two.owner_eq.trans one.owner_eq
  period_eq := two.period_eq.trans one.period_eq
  numVars_le := Nat.le_trans one.numVars_le two.numVars_le
  keeps_clauses := one.keeps_clauses.trans two.keeps_clauses
  extends_uniquely :=
    one.extends_uniquely.trans two.extends_uniquely one.numVars_le two.keeps_clauses

/-- What satisfies the later formula satisfies the earlier one. -/
theorem Grows.keeps_eval {assignment : Assignment} {before after : Solver} (grows : before.Grows after)
    (holds : after.backend.formula.eval assignment = true) :
    before.backend.formula.eval assignment = true :=
  Formula.eval_of_extended grows.keeps_clauses holds

/-- A literal stays of use while the solver keeps its formula. -/
theorem Live.mono {before after : Solver} {literal : Lit} (live : before.Live literal)
    (sameOwner : after.owner = before.owner) (samePeriod : after.period = before.period)
    (atMost : before.backend.numVars ≤ after.backend.numVars) : after.Live literal := by
  unfold Live at live ⊢
  rw [sameOwner, samePeriod]
  exact live.imp_right fun ⟨inScope, atLeast, bounded⟩ =>
    ⟨inScope, atLeast, Nat.le_trans bounded atMost⟩

/-- A live literal stays live as the solver grows. -/
theorem Live.of_grows {before after : Solver} {literal : Lit} (live : before.Live literal)
    (grows : before.Grows after) : after.Live literal :=
  live.mono grows.owner_eq grows.period_eq grows.numVars_le

/-- A solver owns its live literals. -/
theorem Live.owns {solver : Solver} {literal : Lit} (live : solver.Live literal) :
    solver.Owns literal := by
  rcases live with ⟨inScope, _⟩ | ⟨inScope, _⟩
  · exact Or.inr inScope
  · exact Or.inl inScope

/-- The negation of a live literal is live. -/
theorem Live.neg {solver : Solver} {literal : Lit} (live : solver.Live literal) :
    solver.Live literal.neg := by
  rcases live with ⟨inScope, code⟩ | ⟨inScope, atLeast, atMost⟩
  · refine Or.inl ⟨inScope, ?_⟩
    simp only [Lit.neg]
    omega
  · refine Or.inr ⟨inScope, ?_, ?_⟩
    · simpa only [Lit.neg, Int.natAbs_neg] using atLeast
    · simpa only [Lit.neg, Int.natAbs_neg] using atMost

theorem live_top (solver : Solver) : solver.Live (top solver.owner) :=
  Or.inl ⟨rfl, Or.inl rfl⟩

theorem live_bot (solver : Solver) : solver.Live (bot solver.owner) :=
  Or.inl ⟨rfl, Or.inr rfl⟩

theorem live_lift (solver : Solver) (value : Bool) : solver.Live (lift solver.owner value) := by
  cases value with
  | false => exact live_bot solver
  | true => exact live_top solver

namespace WellFormed

variable {solver : Solver}

theorem numVars_pos (wellFormed : solver.WellFormed) : 0 < solver.backend.numVars := by
  have isLiteral := wellFormed.isOver [1] wellFormed.asserts_top 1 List.mem_cons_self
  exact isLiteral.2

/-- The first variable is true in every model. -/
theorem top_holds (wellFormed : solver.WellFormed) {assignment : Assignment}
    (holds : solver.backend.formula.eval assignment = true) : assignment.holds 1 = true := by
  unfold Formula.eval at holds
  have asserted := List.all_eq_true.1 holds [1] wellFormed.asserts_top
  simpa [Clause.eval] using asserted

/-- The code of a live literal is one of the variables of the formula or its negation. -/
theorem isLiteral (wellFormed : solver.WellFormed) {literal : Lit} (live : solver.Live literal) :
    IsLiteral solver.backend.numVars literal.code := by
  have positive := wellFormed.numVars_pos
  rcases live with ⟨_, code⟩ | ⟨_, atLeast, atMost⟩
  · constructor <;> omega
  · exact ⟨by omega, atMost⟩

/-- The value of a negation is the negation of the value. -/
theorem value_neg (wellFormed : solver.WellFormed) {literal : Lit} (live : solver.Live literal)
    (assignment : Assignment) : assignment.value literal.neg = !assignment.value literal :=
  assignment.holds_neg (wellFormed.isLiteral live).1

/-- The value of a live literal depends only on the variables of the formula. -/
theorem value_congr (wellFormed : solver.WellFormed) {literal : Lit} (live : solver.Live literal)
    {left right : Assignment} (agree : left.AgreeUpTo solver.backend.numVars right) :
    left.value literal = right.value literal :=
  (wellFormed.isLiteral live).holds_congr agree

end WellFormed

/-! ## What the operations do -/

/-- A literal that the solver owns passes the check. -/
theorem runOn_check {solver : Solver} {literal : Lit} (owns : solver.Owns literal) :
    (check literal).runOn solver = (.ok (), solver) := by
  unfold check
  rw [Act.runOn_bind_ok (Act.runOn_get solver), if_pos owns, Act.runOn_pure]

theorem runOn_checks {solver : Solver} {literals : List Lit}
    (owns : ∀ literal ∈ literals, solver.Owns literal) :
    (literals.forM check).runOn solver = (.ok (), solver) := by
  induction literals with
  | nil => rfl
  | cons literal literals hypothesis =>
      have first := runOn_check (owns literal List.mem_cons_self)
      refine (Act.runOn_bind_ok first fun _ => literals.forM check).trans ?_
      exact hypothesis fun other member => owns other (List.mem_cons_of_mem _ member)

/-- What is done on the back-end changes nothing else about the solver. -/
theorem runOn_onBackend {α : Type} (action : Act Backend α) (solver : Solver) :
    (onBackend action).runOn solver =
      ((action.runOn solver.backend).1,
        { solver with backend := (action.runOn solver.backend).2 }) := rfl

/-- The solver with one more variable. -/
def extended (solver : Solver) : Solver :=
  { solver with
    backend := { solver.backend with numVars := solver.backend.numVars + 1 }
    totalVariables := solver.totalVariables + 1 }

/-- The literal of the variable that is allocated next. -/
def nextLiteral (solver : Solver) : Lit :=
  ⟨.formula solver.owner solver.period, (solver.backend.numVars + 1 : Nat)⟩

theorem runOn_newVariable (solver : Solver) :
    newVariable.runOn solver = (.ok solver.nextLiteral, solver.extended) := rfl

/-- The solver with one more clause. -/
def pushed (solver : Solver) (clause : Clause) : Solver :=
  { solver with
    backend := { solver.backend with
      clauses := solver.backend.clauses.push clause.written
      decision := none }
    totalClauses := solver.totalClauses + 1 }

/-- A clause over the allocated variables reaches the back-end. -/
theorem runOn_push {solver : Solver} {clause : Clause}
    (allocated : ∀ literal ∈ clause, IsLiteral solver.backend.numVars literal) :
    (onBackend (Backend.addClause clause.written)).runOn solver =
      (.ok (), { solver with backend := (solver.pushed clause).backend }) := by
  have accepted : clause.written.find? (fun literal =>
      !decide (IsLiteral solver.backend.numVars literal.value)) = none := by
    rw [List.find?_eq_none]
    intro written member
    obtain ⟨literal, inside, rfl⟩ := List.mem_map.1 member
    simp [allocated literal inside]
  rw [runOn_onBackend]
  unfold Backend.addClause
  rw [Act.runOn_bind_ok (Act.runOn_get _), accepted]
  rfl

/-- Any other clause is refused. -/
theorem runOn_push_refused {solver : Solver} {clause : Clause}
    (foreign : ¬∀ literal ∈ clause, IsLiteral solver.backend.numVars literal) :
    ∃ fault, (onBackend (Backend.addClause clause.written)).runOn solver = (.error fault, solver) := by
  rw [runOn_onBackend]
  unfold Backend.addClause
  rw [Act.runOn_bind_ok (Act.runOn_get _)]
  cases invalid : clause.written.find? (fun literal =>
      !decide (IsLiteral solver.backend.numVars literal.value)) with
  | some literal => exact ⟨_, rfl⟩
  | none =>
      refine absurd (fun literal inside => ?_) foreign
      have valid := List.find?_eq_none.1 invalid (.number literal)
        (List.mem_map.2 ⟨literal, inside, rfl⟩)
      rw [Bool.not_eq_true, Bool.not_eq_false'] at valid
      exact of_decide_eq_true valid

/-- The solver after a clause of live literals was asserted. -/
def asserted (solver : Solver) (literals : List Lit) : Solver :=
  match simplify? (literals.map Lit.code) with
  | none => solver
  | some clause =>
      { solver with
        backend := { solver.backend with
          clauses := solver.backend.clauses.push clause.written
          decision := none }
        totalClauses := solver.totalClauses + 1 }

/-- Simplifying a clause brings nothing new into it, except the false constant where nothing is left. -/
theorem mem_of_simplify? {codes clause : Clause} (simplified : simplify? codes = some clause)
    {literal : Int} (member : literal ∈ clause) : literal = -1 ∨ literal ∈ codes := by
  unfold simplify? at simplified
  split at simplified
  · cases simplified
  · split at simplified
    · cases simplified
      exact Or.inl (List.mem_singleton.1 member)
    · rename_i kept _
      cases simplified
      exact Or.inr (List.mem_filter.1 member).1

/-- Where the first variable is true, dropping a clause with it and leaving out its negation changes
nothing. -/
theorem eval_simplify? {codes : Clause} {assignment : Assignment}
    (isTop : assignment.holds 1 = true) :
    ((simplify? codes).elim true fun clause => clause.eval assignment) =
      codes.eval assignment := by
  have isBot : assignment.holds (-1) = false := by
    rw [Assignment.holds_neg assignment (by decide), isTop, Bool.not_true]
  have filtered : Clause.eval assignment (codes.filter (· != -1)) = Clause.eval assignment codes := by
    unfold Clause.eval
    rw [List.any_filter, Bool.eq_iff_iff]
    simp only [List.any_eq_true, Bool.and_eq_true]
    constructor
    · rintro ⟨literal, member, _, holds⟩
      exact ⟨literal, member, holds⟩
    · rintro ⟨literal, member, holds⟩
      refine ⟨literal, member, ?_, holds⟩
      rw [bne_iff_ne]
      rintro rfl
      rw [isBot] at holds
      cases holds
  unfold simplify?
  by_cases present : codes.contains 1 = true
  · rw [if_pos present]
    refine Eq.symm (List.any_eq_true.2 ⟨1, ?_, isTop⟩)
    simpa using present
  · rw [if_neg present, ← filtered]
    split
    · rename_i empty
      rw [empty]
      simp [Clause.eval, isBot]
    · rfl

/-- A clause over live literals is asserted. -/
theorem runOn_addClause {solver : Solver} (wellFormed : solver.WellFormed) {literals : List Lit}
    (live : ∀ literal ∈ literals, solver.Live literal) :
    (addClause literals).runOn solver = (.ok (), solver.asserted literals) := by
  unfold addClause
  rw [Act.runOn_bind_ok (runOn_checks fun literal member => (live literal member).owns)]
  unfold asserted
  cases simplified : simplify? (literals.map Lit.code) with
  | none => rfl
  | some clause =>
      have allocated : ∀ literal ∈ clause, IsLiteral solver.backend.numVars literal := by
        intro literal inside
        rcases mem_of_simplify? simplified inside with isBot | isCode
        · exact isBot ▸ wellFormed.isLiteral (live_bot solver)
        · obtain ⟨original, isMember, rfl⟩ := List.mem_map.1 isCode
          exact wellFormed.isLiteral (live original isMember)
      rw [Act.runOn_bind_ok (runOn_push allocated)]
      rfl

theorem formula_extended (solver : Solver) :
    solver.extended.backend.formula = solver.backend.formula := rfl

/-- An asserted clause comes last in the formula, simplified, unless the true constant is in it. -/
theorem formula_asserted (solver : Solver) (literals : List Lit) :
    (solver.asserted literals).backend.formula =
      solver.backend.formula ++ (simplify? (literals.map Lit.code)).toList := by
  unfold asserted
  cases simplify? (literals.map Lit.code) with
  | none => simp
  | some clause => simp [Backend.formula]

theorem numVars_asserted (solver : Solver) (literals : List Lit) :
    (solver.asserted literals).backend.numVars = solver.backend.numVars := by
  unfold asserted
  split <;> rfl

theorem owner_asserted (solver : Solver) (literals : List Lit) :
    (solver.asserted literals).owner = solver.owner := by
  unfold asserted
  split <;> rfl

theorem period_asserted (solver : Solver) (literals : List Lit) :
    (solver.asserted literals).period = solver.period := by
  unfold asserted
  split <;> rfl

/-- Asserting a clause makes no literal live, nor any other than live. -/
theorem live_asserted {solver : Solver} {literals : List Lit} {literal : Lit} :
    (solver.asserted literals).Live literal ↔ solver.Live literal := by
  unfold Live
  rw [owner_asserted, period_asserted, numVars_asserted]

theorem WellFormed.extended {solver : Solver} (wellFormed : solver.WellFormed) :
    solver.extended.WellFormed where
  isOver := wellFormed.isOver.mono (Nat.le_succ _)
  asserts_top := wellFormed.asserts_top

/-- A solver stays well-formed when a clause over live literals is asserted. -/
theorem WellFormed.asserted {solver : Solver} (wellFormed : solver.WellFormed) {literals : List Lit}
    (live : ∀ literal ∈ literals, solver.Live literal) :
    (solver.asserted literals).WellFormed where
  isOver := by
    rw [formula_asserted, numVars_asserted]
    intro clause inside literal member
    rcases List.mem_append.1 inside with old | new
    · exact wellFormed.isOver clause old literal member
    · have simplified := Option.mem_toList.1 new
      rcases mem_of_simplify? simplified member with isBot | isCode
      · exact isBot ▸ wellFormed.isLiteral (live_bot solver)
      · obtain ⟨original, isMember, rfl⟩ := List.mem_map.1 isCode
        exact wellFormed.isLiteral (live original isMember)
  asserts_top := by
    rw [formula_asserted]
    exact List.mem_append_left _ wellFormed.asserts_top

/-- A clause holds when one of its literals does. -/
def holdsAny (assignment : Assignment) (literals : List Lit) : Bool :=
  literals.any assignment.value

/-- An assignment is a model after a clause was asserted if it was one before and satisfies the
clause. -/
theorem eval_asserted {solver : Solver} (wellFormed : solver.WellFormed) (literals : List Lit)
    (assignment : Assignment) :
    (solver.asserted literals).backend.formula.eval assignment =
      (solver.backend.formula.eval assignment && holdsAny assignment literals) := by
  rw [formula_asserted, Formula.eval_append]
  by_cases holds : solver.backend.formula.eval assignment = true
  · rw [holds, Bool.true_and, Bool.true_and]
    have simplified : ((simplify? (literals.map Lit.code)).elim true fun clause =>
        clause.eval assignment) = Clause.eval assignment (literals.map Lit.code) :=
      eval_simplify? (wellFormed.top_holds holds)
    have any : Clause.eval assignment (literals.map Lit.code) = holdsAny assignment literals := by
      rw [Clause.eval, holdsAny, List.any_map]
      rfl
    rw [← any, ← simplified]
    cases simplify? (literals.map Lit.code) with
    | none => rfl
    | some clause => simp [Formula.eval]
  · rw [Bool.not_eq_true] at holds
    rw [holds, Bool.false_and, Bool.false_and]

end Solver

end TensorLogic
