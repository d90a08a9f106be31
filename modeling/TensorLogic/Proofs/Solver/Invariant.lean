/-
Module: TensorLogic.Proofs.Solver.Invariant
Purpose: What holds of a solver after any calls: the shape of its clauses, the codes of its literals and
  the totals over all of its periods.
Main exports: Solver.Live.eq_iff, Solver.live_extended_iff, Solver.Consistent, Solver.Ran.consistent
-/
import Mathlib.Algebra.GroupWithZero.Nat
import TensorLogic.Proofs.Solver.History

namespace TensorLogic.Solver

variable {owner : Nat} {backend : Backend} {history : List Moment} {solver : Solver} {literal : Lit}

/-! ## Literals and their codes -/

theorem Live.code_eq_one_iff (live : solver.Live literal) :
    literal.code = 1 ↔ literal = top solver.owner := by
  constructor
  · intro isOne
    rcases live with ⟨inScope, _⟩ | ⟨_, atLeast, _⟩
    · obtain ⟨scope, code⟩ := literal
      cases inScope
      cases isOne
      rfl
    · rw [isOne] at atLeast
      exact absurd atLeast (by decide)
  · rintro rfl
    rfl

theorem Live.code_eq_neg_one_iff (live : solver.Live literal) :
    literal.code = -1 ↔ literal = bot solver.owner := by
  constructor
  · intro isOne
    rcases live with ⟨inScope, _⟩ | ⟨_, atLeast, _⟩
    · obtain ⟨scope, code⟩ := literal
      cases inScope
      cases isOne
      rfl
    · rw [isOne] at atLeast
      exact absurd atLeast (by decide)
  · rintro rfl
    rfl

/-- Literals that a solver can use are told apart by their codes. -/
theorem Live.eq_iff {other : Lit} (live : solver.Live literal) (liveOther : solver.Live other) :
    literal.code = other.code ↔ literal = other := by
  refine ⟨fun sameCode => ?_, fun same => same ▸ rfl⟩
  have sameScope : literal.scope = other.scope := by
    rcases live with ⟨inScope, code⟩ | ⟨inScope, atLeast, _⟩ <;>
      rcases liveOther with ⟨otherScope, otherCode⟩ | ⟨otherScope, otherAtLeast, _⟩
    · rw [inScope, otherScope]
    · omega
    · omega
    · rw [inScope, otherScope]
  obtain ⟨scope, code⟩ := literal
  obtain ⟨otherScope, otherCode⟩ := other
  cases sameScope
  cases sameCode
  rfl

theorem not_live_nextLiteral : ¬solver.Live solver.nextLiteral := by
  rintro (⟨inScope, _⟩ | ⟨_, _, atMost⟩)
  · cases inScope
  · exact absurd atMost (Nat.not_le.2 (Nat.lt_succ_self _))

/-- A variable is allocated together with its negation. -/
theorem live_extended_iff (positive : 0 < solver.backend.numVars) :
    solver.extended.Live literal ↔
      solver.Live literal ∨ literal = solver.nextLiteral ∨ literal = solver.nextLiteral.neg := by
  obtain ⟨scope, code⟩ := literal
  simp only [Live, nextLiteral, Lit.neg, extended, Lit.mk.injEq]
  constructor
  · rintro (constant | ⟨inScope, atLeast, atMost⟩)
    · exact Or.inl (Or.inl constant)
    · by_cases isNew : code.natAbs = solver.backend.numVars + 1
      · have isCode : code = (solver.backend.numVars + 1 : Nat) ∨
            code = -(solver.backend.numVars + 1 : Nat) := by omega
        exact Or.inr (isCode.imp (⟨inScope, ·⟩) (⟨inScope, ·⟩))
      · exact Or.inl (Or.inr ⟨inScope, atLeast, by omega⟩)
  · rintro ((constant | ⟨inScope, atLeast, atMost⟩) | ⟨inScope, isCode⟩ | ⟨inScope, isCode⟩)
    · exact Or.inl constant
    · exact Or.inr ⟨inScope, atLeast, by omega⟩
    · exact Or.inr ⟨inScope, by omega, by omega⟩
    · exact Or.inr ⟨inScope, by omega, by omega⟩

/-! ## Runs -/

namespace Ran

/-- The first clause says the true constant, and all others are free of the constants, as far as they can
be. -/
theorem clauses_kept [Platform] (ran : Ran owner backend history solver) :
    ∃ rest : Formula, solver.backend.clauses.toList = ([1] :: rest).map Clause.written ∧
      ∀ clause ∈ rest, Kept solver.backend.numVars clause := by
  refine Ran.induct (fun _ solver => ∃ rest : Formula,
    solver.backend.clauses.toList = ([1] :: rest).map Clause.written ∧
      ∀ clause ∈ rest, Kept solver.backend.numVars clause) ?_ ?_ ?_ ?_ ran
  · exact ⟨[], rfl, fun _ impossible => nomatch impossible⟩
  · exact fun _ _ => ⟨[], rfl, fun _ impossible => nomatch impossible⟩
  · rintro history solver _ ⟨rest, isRest, kept⟩
    have searches := (searches_solve solver).1
    rw [searches.clauses_eq, searches.numVars_eq]
    exact ⟨rest, isRest, kept⟩
  · rintro history solver call more _ _ built _ ⟨rest, isRest, kept⟩
    refine ⟨rest ++ more, ?_, fun clause inside => ?_⟩
    · rw [built.clauses_eq, isRest, ← List.map_append, List.cons_append]
    · rcases List.mem_append.1 inside with old | new
      · exact (kept clause old).mono built.numVars_le
      · exact built.kept clause new

theorem numClauses_pos [Platform] (ran : Ran owner backend history solver) :
    0 < solver.backend.numClauses := by
  obtain ⟨rest, isRest, _⟩ := ran.clauses_kept
  have lengths := congrArg List.length isRest
  rw [Array.length_toList, List.length_map, List.length_cons] at lengths
  unfold Backend.numClauses
  omega

/-- The totals are made up of what the periods had at their ends, apart from the constant and the clause
that says it. -/
theorem totals_eq [Platform] (ran : Ran owner backend history solver) :
    solver.totalVariables =
        ((solver :: ended history).map fun period => period.backend.numVars - 1).sum ∧
      solver.totalClauses =
        ((solver :: ended history).map fun period => period.backend.numClauses - 1).sum := by
  refine Ran.induct (fun history solver => solver.totalVariables =
        ((solver :: ended history).map fun period => period.backend.numVars - 1).sum ∧
      solver.totalClauses =
        ((solver :: ended history).map fun period => period.backend.numClauses - 1).sum) ?_ ?_ ?_ ?_ ran
  · exact ⟨rfl, rfl⟩
  · rintro history solver _ ⟨sameVariables, sameClauses⟩
    constructor
    · change solver.totalVariables = 0 + _
      rw [sameVariables, Nat.zero_add]
      rfl
    · change solver.totalClauses = 0 + _
      rw [sameClauses, Nat.zero_add]
      rfl
  · rintro history solver _ ⟨sameVariables, sameClauses⟩
    have searches := (searches_solve solver).1
    have sameNumber : (solve.runOn solver).2.backend.numClauses = solver.backend.numClauses :=
      congrArg Array.size searches.clauses_eq
    rw [List.map_cons, List.map_cons, searches.numVars_eq, sameNumber, searches.totalVariables_eq,
      searches.totalClauses_eq]
    exact ⟨sameVariables, sameClauses⟩
  · rintro history solver call more notClear _ built ran ⟨sameVariables, sameClauses⟩
    have samePeriods : ended (⟨call, solver⟩ :: history) = ended history := by
      unfold ended
      rw [List.filter_cons_of_neg (by simp [notClear])]
    have positive := ran.reachable.wellFormed.numVars_pos
    have nonempty := ran.numClauses_pos
    have counted := built.totalVariables_eq
    have grown := built.numVars_le
    rw [List.map_cons, List.sum_cons] at sameVariables sameClauses ⊢
    rw [List.map_cons, List.sum_cons, samePeriods, built.totalClauses_eq, built.numClauses_eq]
    omega

/-- Every earlier period has an earlier number. -/
theorem period_lt [Platform] (ran : Ran owner backend history solver) :
    ∀ earlier ∈ ended history, earlier.period < solver.period := by
  refine Ran.induct (fun history solver =>
    ∀ earlier ∈ ended history, earlier.period < solver.period) ?_ ?_ ?_ ?_ ran
  · exact fun _ impossible => nomatch impossible
  · intro history solver _ hypothesis
    refine List.forall_mem_cons.2 ⟨Nat.lt_succ_self _, fun earlier inside => ?_⟩
    exact Nat.lt_succ_of_lt (hypothesis earlier inside)
  · intro history solver _ hypothesis
    rw [(searches_solve solver).1.period_eq]
    exact hypothesis
  · intro history solver call more notClear _ built _ hypothesis
    unfold ended
    rw [List.filter_cons_of_neg (by simp [notClear]), built.period_eq]
    exact hypothesis

end Ran

/-- What holds of a solver after the calls of its history. -/
structure Consistent (history : List Moment) (solver : Solver) : Prop where
  /-- The first clause says the true constant.  Every other one is the false constant alone, or has
  literals of allocated variables other than the first. -/
  clauses : ∃ rest : Formula, solver.backend.clauses.toList = ([1] :: rest).map Clause.written ∧
    ∀ clause ∈ rest, clause = [-1] ∨ clause ≠ [] ∧
      ∀ literal ∈ clause, 2 ≤ literal.natAbs ∧ literal.natAbs ≤ solver.backend.numVars
  /-- Literals are told apart by their codes. -/
  told_apart : ∀ left right, solver.Live left → solver.Live right →
    (left.code = right.code ↔ left = right)
  /-- Codes are those of allocated variables, and the first variable is the constant. -/
  codes : ∀ literal, solver.Live literal → literal.code ≠ 0 ∧
    literal.code.natAbs ≤ solver.backend.numVars ∧
      (literal.code = 1 ↔ literal = top solver.owner) ∧
      (literal.code = -1 ↔ literal = bot solver.owner)
  /-- Literals come with their negations. -/
  negated : ∀ literal, solver.Live literal → solver.Live literal.neg ∧
    literal.neg.code = -literal.code ∧ literal.neg.neg = literal
  /-- A literal that is allocated is a new one, also compared with those of earlier periods. -/
  allocates : ∃ fresh after, newVariable.runOn solver = (.ok fresh, after) ∧
    (∀ earlier ∈ solver :: ended history, ¬earlier.Live fresh ∧ ¬earlier.Live fresh.neg) ∧
    ∀ literal, after.Live literal ↔ solver.Live literal ∨ literal = fresh ∨ literal = fresh.neg
  /-- Only the constants of a solver outlive its periods. -/
  outlived : ∀ earlier ∈ ended history, ∀ literal, earlier.Live literal → solver.Live literal →
    literal = top solver.owner ∨ literal = bot solver.owner
  totalVariables_eq : solver.totalVariables =
    ((solver :: ended history).map fun period => period.backend.numVars - 1).sum
  totalClauses_eq : solver.totalClauses =
    ((solver :: ended history).map fun period => period.backend.numClauses - 1).sum
  /-- Clauses of literals that the solver can use are accepted. -/
  accepts : ∀ literals, (∀ literal ∈ literals, solver.Live literal) →
    ((addClause literals).runOn solver).1 = .ok ()
  /-- Such literals can be decoded, unless there is no model. -/
  decodes : ∀ literal, solver.Live literal →
    ∀ fault, ((decode literal).runOn solver).1 = .error fault → fault = .noDecoding
  /-- The formula can be written out. -/
  written : solver.toCnf = .ok ⟨.number solver.backend.numVars, solver.backend.clauses.toList⟩

theorem toCnf_eq (wellFormed : solver.WellFormed) :
    solver.toCnf = .ok ⟨.number solver.backend.numVars, solver.backend.clauses.toList⟩ := by
  have isOver : Formula.IsOver (Count.number solver.backend.numVars).value
      (solver.backend.clauses.toList.map WrittenClause.literals) := wellFormed.isOver
  have counted : (Whole.number (solver.backend.numVars : Nat)).count? =
      some (.number solver.backend.numVars) := rfl
  unfold toCnf Cnf.ofClauses
  rw [counted]
  exact if_pos isOver

/-- Only the constants of a solver are of use in two periods. -/
theorem Live.of_periods {earlier : Solver} (before : earlier.period < solver.period)
    (live : earlier.Live literal) (still : solver.Live literal) :
    literal = top solver.owner ∨ literal = bot solver.owner := by
  rcases still with ⟨inScope, isOne | isOne⟩ | ⟨inScope, _⟩
  · exact Or.inl ((Live.code_eq_one_iff (Or.inl ⟨inScope, Or.inl isOne⟩)).1 isOne)
  · exact Or.inr ((Live.code_eq_neg_one_iff (Or.inl ⟨inScope, Or.inr isOne⟩)).1 isOne)
  · rcases live with ⟨otherScope, _⟩ | ⟨otherScope, _⟩
    · rw [inScope] at otherScope
      cases otherScope
    · rw [inScope] at otherScope
      have samePeriod := (Scope.formula.inj otherScope).2
      omega

/-- After every run of calls, failing ones included, a solver is consistent. -/
theorem Ran.consistent [Platform] (ran : Ran owner backend history solver) : Consistent history solver := by
  have wellFormed := ran.reachable.wellFormed
  obtain ⟨totalVariables_eq, totalClauses_eq⟩ := ran.totals_eq
  refine ⟨ran.clauses_kept, fun left right live liveOther => live.eq_iff liveOther,
    fun literal live => ?_, fun literal live => ⟨live.neg, rfl, literal.neg_neg⟩, ?_,
    fun earlier inside literal live still => live.of_periods (ran.period_lt earlier inside) still,
    totalVariables_eq, totalClauses_eq, fun literals live => ?_, fun literal live fault failed => ?_,
    toCnf_eq wellFormed⟩
  · exact ⟨(wellFormed.isLiteral live).1, (wellFormed.isLiteral live).2, live.code_eq_one_iff,
      live.code_eq_neg_one_iff⟩
  · refine ⟨_, _, runOn_newVariable solver, ?_, fun literal =>
      live_extended_iff wellFormed.numVars_pos⟩
    have isNew : ∀ earlier ∈ solver :: ended history, ¬earlier.Live solver.nextLiteral := by
      refine List.forall_mem_cons.2 ⟨not_live_nextLiteral, fun earlier inside live => ?_⟩
      have fresh : solver.extended.Live solver.nextLiteral :=
        (live_extended_iff wellFormed.numVars_pos).2 (Or.inr (Or.inl rfl))
      have before : earlier.period < solver.extended.period := ran.period_lt earlier inside
      rcases live.of_periods before fresh with same | same
      · cases congrArg Lit.scope same
      · cases congrArg Lit.scope same
    intro earlier inside
    refine ⟨isNew earlier inside, fun live => isNew earlier inside ?_⟩
    exact solver.nextLiteral.neg_neg ▸ live.neg
  · rw [runOn_addClause wellFormed live]
  · by_cases found : ∃ model, solver.backend.decision = some (.model model)
    · obtain ⟨model, isModel⟩ := found
      rw [runOn_decode isModel wellFormed live] at failed
      cases failed
    · rw [runOn_decode_of_no_model live.owns fun model isModel => found ⟨model, isModel⟩] at failed
      cases failed
      rfl

attribute [local instance] Platform.usual in
/-- Two variables and their conjunction in a first period, and one variable in a second one, make four
variables and three clauses. -/
theorem consistent_second_period :
    let names : Environment Lit := [("x", .elem ⟨.formula 0 1, 2⟩), ("y", .elem ⟨.formula 0 1, 3⟩)]
    let conjunction : Call := .evaluate names [] (.connective .conj (.ref "x") (.ref "y"))
    ∃ history solver, Ran 0 { engine := .least } history solver ∧
      history.reverse.map Moment.call =
        [.newVariable, .newVariable, conjunction, .clear, .newVariable] ∧
      Consistent history solver ∧ solver.totalVariables = 4 ∧ solver.totalClauses = 3 := by
  intro names conjunction
  have ran : Ran 0 { engine := .least } _ _ :=
    ((((Ran.created.called .newVariable).called .newVariable).called conjunction).called
      .clear).called .newVariable
  have consistent := ran.consistent
  exact ⟨_, _, ran, rfl, consistent, consistent.totalVariables_eq.trans rfl,
    consistent.totalClauses_eq.trans rfl⟩

end TensorLogic.Solver
