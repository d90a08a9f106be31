/-
Module: TensorLogic.Proofs.Solver.Gates
Purpose: Every gate computes its operation in every model, and leaves each model of the formula exactly
  one extension.
Main exports: Solver.literalValuation, Solver.computes_define, Solver.realizes_conj,
  Solver.realizes_disj, Solver.realizes_xor, Solver.realizes_all, Solver.realizes_any
-/
import TensorLogic.Proofs.Algebra.Valuation
import TensorLogic.Proofs.Solver.State

namespace TensorLogic

namespace Solver

/-! ## Asserting the clauses of a gate -/

/-- The solver after several clauses of live literals were asserted. -/
def assertedAll (solver : Solver) (clauses : List (List Lit)) : Solver :=
  clauses.foldl asserted solver

/-- The clauses of a gate are over the variables that there are once its output is allocated. -/
def LiveClauses (solver : Solver) (clauses : List (List Lit)) : Prop :=
  ∀ clause ∈ clauses, ∀ literal ∈ clause, solver.Live literal

theorem LiveClauses.asserted {solver : Solver} {clause : List Lit} {clauses : List (List Lit)}
    (live : solver.LiveClauses clauses) : (solver.asserted clause).LiveClauses clauses :=
  fun other inside literal member => live_asserted.2 (live other inside literal member)

/-- Clauses over live literals are asserted in turn. -/
theorem runOn_assertAll {solver : Solver} (wellFormed : solver.WellFormed)
    {clauses : List (List Lit)} (live : solver.LiveClauses clauses) :
    (clauses.forM addClause).runOn solver = (.ok (), solver.assertedAll clauses) := by
  induction clauses generalizing solver with
  | nil => rfl
  | cons clause clauses hypothesis =>
      have liveClause := live clause List.mem_cons_self
      refine (Act.runOn_bind_ok (runOn_addClause wellFormed liveClause)
        fun _ => clauses.forM addClause).trans ?_
      refine hypothesis (wellFormed.asserted liveClause) (LiveClauses.asserted ?_)
      exact fun other inside => live other (List.mem_cons_of_mem _ inside)

theorem owner_assertedAll (solver : Solver) (clauses : List (List Lit)) :
    (solver.assertedAll clauses).owner = solver.owner := by
  induction clauses generalizing solver with
  | nil => rfl
  | cons clause clauses hypothesis =>
      exact (hypothesis (solver.asserted clause)).trans (owner_asserted solver clause)

theorem period_assertedAll (solver : Solver) (clauses : List (List Lit)) :
    (solver.assertedAll clauses).period = solver.period := by
  induction clauses generalizing solver with
  | nil => rfl
  | cons clause clauses hypothesis =>
      exact (hypothesis (solver.asserted clause)).trans (period_asserted solver clause)

theorem numVars_assertedAll (solver : Solver) (clauses : List (List Lit)) :
    (solver.assertedAll clauses).backend.numVars = solver.backend.numVars := by
  induction clauses generalizing solver with
  | nil => rfl
  | cons clause clauses hypothesis =>
      exact (hypothesis (solver.asserted clause)).trans (numVars_asserted solver clause)

theorem live_assertedAll {solver : Solver} {clauses : List (List Lit)} {literal : Lit} :
    (solver.assertedAll clauses).Live literal ↔ solver.Live literal := by
  unfold Live
  rw [owner_assertedAll, period_assertedAll, numVars_assertedAll]

/-- Asserting clauses goes on from the formula that was there. -/
theorem keeps_clauses_assertedAll (solver : Solver) (clauses : List (List Lit)) :
    solver.backend.formula <+: (solver.assertedAll clauses).backend.formula := by
  induction clauses generalizing solver with
  | nil => exact List.prefix_refl _
  | cons clause clauses hypothesis =>
      refine List.IsPrefix.trans ?_ (hypothesis (solver.asserted clause))
      rw [formula_asserted]
      exact List.prefix_append _ _

theorem WellFormed.assertedAll {solver : Solver} (wellFormed : solver.WellFormed)
    {clauses : List (List Lit)} (live : solver.LiveClauses clauses) :
    (solver.assertedAll clauses).WellFormed := by
  induction clauses generalizing solver with
  | nil => exact wellFormed
  | cons clause clauses hypothesis =>
      refine hypothesis (wellFormed.asserted (live clause List.mem_cons_self))
        (LiveClauses.asserted ?_)
      exact fun other inside => live other (List.mem_cons_of_mem _ inside)

/-- The formula with asserted clauses holds where the formula does, and one literal of each clause. -/
theorem eval_assertedAll {solver : Solver} (wellFormed : solver.WellFormed)
    {clauses : List (List Lit)} (live : solver.LiveClauses clauses) (assignment : Assignment) :
    (solver.assertedAll clauses).backend.formula.eval assignment =
      (solver.backend.formula.eval assignment && clauses.all (holdsAny assignment)) := by
  induction clauses generalizing solver with
  | nil => simp [assertedAll]
  | cons clause clauses hypothesis =>
      have rest := hypothesis (wellFormed.asserted (live clause List.mem_cons_self))
        (LiveClauses.asserted fun other inside => live other (List.mem_cons_of_mem _ inside))
      refine rest.trans ?_
      rw [eval_asserted wellFormed, List.all_cons, Bool.and_assoc]

/-! ## The output of a gate -/

/-- What the literals mean under an assignment.  The formula has to have the assignment for a model. -/
def literalValuation (assignment : Assignment) : Valuation Solver Lit where
  Valid := WellFormed
  Reaches := Grows
  Live := Live
  Consistent := fun solver => solver.backend.formula.eval assignment = true
  value := assignment.value
  reaches_refl := Grows.refl
  reaches_trans := Grows.trans
  live_of_reaches := fun grows live => live.of_grows grows
  consistent_of_reaches := Grows.keeps_eval

/-- The next literal is live once the solver is extended by its variable. -/
theorem live_nextLiteral {solver : Solver} (wellFormed : solver.WellFormed) :
    solver.extended.Live solver.nextLiteral := by
  have positive := wellFormed.numVars_pos
  refine Or.inr ⟨rfl, ?_, ?_⟩
  · simp only [nextLiteral, Int.natAbs_natCast]
    omega
  · simp only [nextLiteral, extended, Int.natAbs_natCast, Nat.le_refl]

theorem Live.extended {solver : Solver} {literal : Lit} (live : solver.Live literal) :
    solver.extended.Live literal := by
  rcases live with constant | ⟨inScope, atLeast, atMost⟩
  · exact Or.inl constant
  · exact Or.inr ⟨inScope, atLeast, Nat.le_succ_of_le atMost⟩

/-- The value of the next literal is that of the variable that comes next. -/
theorem value_nextLiteral (solver : Solver) (assignment : Assignment) :
    assignment.value solver.nextLiteral = assignment (solver.backend.numVars + 1) := by
  change assignment.holds ((solver.backend.numVars + 1 : Nat) : Int) = _
  unfold Assignment.holds
  rw [if_pos (by omega)]
  rfl

/-- An assignment with another value for one variable. -/
def withValue (assignment : Assignment) (place : Nat) (value : Bool) : Assignment :=
  fun other => if other = place then value else assignment other

/-- What the clauses of a gate have to say: that its output is equivalent to something that depends on
the earlier variables only. -/
structure Defines (solver : Solver) (clauses : Lit → List (List Lit))
    (meaning : Assignment → Bool) : Prop where
  live : solver.extended.LiveClauses (clauses solver.nextLiteral)
  all_eq : ∀ assignment : Assignment,
    (clauses solver.nextLiteral).all (holdsAny assignment) =
      (assignment.value solver.nextLiteral == meaning assignment)
  congr : ∀ {left right : Assignment}, left.AgreeUpTo solver.backend.numVars right →
    meaning left = meaning right

/-- A solver grows by a definition: each assignment to the old variables has one value of the new one that
fits. -/
theorem Defines.grows {solver : Solver} (wellFormed : solver.WellFormed)
    {clauses : Lit → List (List Lit)} {meaning : Assignment → Bool}
    (defines : solver.Defines clauses meaning) :
    solver.Grows (solver.extended.assertedAll (clauses solver.nextLiteral)) where
  owner_eq := owner_assertedAll _ _
  period_eq := period_assertedAll _ _
  numVars_le := by
    rw [numVars_assertedAll]
    exact Nat.le_succ _
  keeps_clauses := keeps_clauses_assertedAll solver.extended _
  extends_uniquely := by
    intro model holds
    have evaluated := eval_assertedAll wellFormed.extended defines.live
    have before : ∀ assignment : Assignment, model.AgreeUpTo solver.backend.numVars assignment →
        solver.extended.backend.formula.eval assignment = true := by
      intro assignment agree
      rw [formula_extended, ← Formula.eval_congr wellFormed.isOver agree]
      exact holds
    -- the only choice is the value of the output, and the clauses leave one
    have agree : model.AgreeUpTo solver.backend.numVars
        (withValue model (solver.backend.numVars + 1) (meaning model)) := by
      intro place _ bound
      rw [withValue, if_neg (by omega)]
    refine ⟨withValue model (solver.backend.numVars + 1) (meaning model), agree, ?_, ?_⟩
    · rw [evaluated, before _ agree, Bool.true_and, defines.all_eq, value_nextLiteral,
        ← defines.congr agree, withValue, if_pos rfl, beq_self_eq_true]
    · intro rival agreeRival holdsRival place positive bound
      rw [evaluated, before _ agreeRival, Bool.true_and, defines.all_eq, value_nextLiteral,
        ← defines.congr agreeRival, beq_iff_eq] at holdsRival
      by_cases isOutput : place = solver.backend.numVars + 1
      · rw [withValue, if_pos isOutput, isOutput, holdsRival]
      · rw [numVars_assertedAll] at bound
        have inside : place ≤ solver.backend.numVars := by
          have atMost : place ≤ solver.backend.numVars + 1 := bound
          omega
        rw [withValue, if_neg isOutput]
        exact agreeRival place positive inside

/-- A definition allocates the next literal and asserts its clauses. -/
theorem Defines.runOn_define {solver : Solver} (wellFormed : solver.WellFormed)
    {clauses : Lit → List (List Lit)} {meaning : Assignment → Bool}
    (defines : solver.Defines clauses meaning) :
    (define clauses).runOn solver = (.ok solver.nextLiteral,
      solver.extended.assertedAll (clauses solver.nextLiteral)) := by
  unfold define
  rw [Act.runOn_bind_ok (runOn_newVariable solver),
    Act.runOn_bind_ok (runOn_assertAll wellFormed.extended defines.live)]
  rfl

/-- The literal that is defined has the value that its clauses say. -/
theorem computes_define {solver : Solver} {clauses : Lit → List (List Lit)}
    {meaning : Assignment → Bool} (defines : solver.Defines clauses meaning)
    (assignment : Assignment) :
    (literalValuation assignment).Computes solver (define clauses) (meaning assignment) := by
  intro wellFormed
  have ran := defines.runOn_define wellFormed
  refine ⟨_, _, ran, wellFormed.extended.assertedAll defines.live, defines.grows wellFormed, ?_, ?_⟩
  · exact live_assertedAll.2 (live_nextLiteral wellFormed)
  · intro consistent
    have evaluated := eval_assertedAll wellFormed.extended defines.live assignment
    have holds : (solver.extended.assertedAll
        (clauses solver.nextLiteral)).backend.formula.eval assignment = true := consistent
    rw [holds, eq_comm, Bool.and_eq_true, defines.all_eq, beq_iff_eq] at evaluated
    exact evaluated.2

/-! ## The gates -/

/-- A literal that exists already is right as the output of a gate if it has the value of the operation
wherever the first variable is true. -/
def Settles (solver : Solver) (meaning : Assignment → Bool) (simple : Lit) : Prop :=
  solver.Live simple ∧ ∀ assignment : Assignment, assignment.holds 1 = true →
    assignment.value simple = meaning assignment

/-- Where a simple case settles a gate, the literal that it comes to has the right value. -/
theorem Settles.computes {solver : Solver} {meaning : Assignment → Bool} {simple : Lit}
    (settles : solver.WellFormed → solver.Settles meaning simple) (assignment : Assignment) :
    (literalValuation assignment).Computes solver (pure simple) (meaning assignment) := by
  intro wellFormed
  obtain ⟨live, same⟩ := settles wellFormed
  have computes : (literalValuation assignment).Computes solver (pure simple)
      (meaning assignment) :=
    Valuation.Computes.pure live fun consistent =>
      same assignment (WellFormed.top_holds wellFormed consistent)
  exact computes wellFormed

/-- The checks of live operands pass, and leave the state to what follows. -/
theorem computes_checked {solver : Solver} {operands : List Lit} {assignment : Assignment}
    {next : Solver → Act Solver Lit} {value : Bool}
    (live : ∀ literal ∈ operands, solver.Live literal)
    (computes : (literalValuation assignment).Computes solver (next solver) value) :
    (literalValuation assignment).Computes solver
      (do
        checkAll operands
        next (← get)) value := by
  intro wellFormed
  have checked : (checkAll operands).runOn solver = (.ok (), solver) :=
    runOn_checks fun literal member => (live literal member).owns
  rw [Act.runOn_bind_ok checked, Act.runOn_bind_ok (Act.runOn_get solver)]
  exact computes wellFormed

theorem live_pair {solver : Solver} {left right : Lit} (liveLeft : solver.Live left)
    (liveRight : solver.Live right) : ∀ literal ∈ [left, right], solver.Live literal := by
  intro literal member
  rcases List.mem_cons.1 member with rfl | member
  · exact liveLeft
  · exact List.mem_singleton.1 member ▸ liveRight

theorem realizes_neg (assignment : Assignment) :
    (literalValuation assignment).RealizesNeg neg := by
  intro solver literal live wellFormed
  unfold neg
  rw [Act.runOn_bind_ok (runOn_check (Live.owns live))]
  have computes : (literalValuation assignment).Computes solver (pure literal.neg)
      (!assignment.value literal) :=
    Valuation.Computes.pure (Live.neg live) fun _ =>
      WellFormed.value_neg wellFormed live assignment
  exact computes wellFormed

/-- The literals that the clauses of a gate with two operands are made of. -/
theorem liveClauses_pair {solver : Solver} (wellFormed : solver.WellFormed) {left right : Lit}
    (liveLeft : solver.Live left) (liveRight : solver.Live right) {clauses : List (List Lit)}
    (made : ∀ clause ∈ clauses, ∀ literal ∈ clause,
      literal ∈ [left, left.neg, right, right.neg, solver.nextLiteral, solver.nextLiteral.neg]) :
    solver.extended.LiveClauses clauses := by
  have liveOutput := live_nextLiteral wellFormed
  intro clause inside literal member
  have possible := made clause inside literal member
  simp only [List.mem_cons, List.not_mem_nil, or_false] at possible
  rcases possible with rfl | rfl | rfl | rfl | rfl | rfl
  · exact liveLeft.extended
  · exact liveLeft.extended.neg
  · exact liveRight.extended
  · exact liveRight.extended.neg
  · exact liveOutput
  · exact liveOutput.neg

/-- A gate with two operands: a literal that is found without clauses, or else a new output. -/
def gate (simple? : Nat → Lit → Lit → Option Lit) (clauses : Lit → Lit → Lit → List (List Lit))
    (left right : Lit) (solver : Solver) : Act Solver Lit :=
  match simple? solver.owner left right with
  | some simple => pure simple
  | none => define (clauses left right)

/-- A gate with two operands is right if the literals that it finds without clauses are right, and the
clauses define its output where it finds none. -/
theorem realizes_gate {connective : Connective} {simple? : Nat → Lit → Lit → Option Lit}
    {clauses : Lit → Lit → Lit → List (List Lit)} (assignment : Assignment)
    (settles : ∀ solver left right simple, WellFormed solver → Live solver left →
      Live solver right → simple? solver.owner left right = some simple →
      solver.Settles (fun assignment =>
        connective.eval (assignment.value left) (assignment.value right)) simple)
    (defines : ∀ solver left right, WellFormed solver → Live solver left → Live solver right →
      solver.Defines (clauses left right) fun assignment =>
        connective.eval (assignment.value left) (assignment.value right)) :
    (literalValuation assignment).Realizes connective
      (fun left right => do
        checkAll [left, right]
        gate simple? clauses left right (← get)) := by
  intro solver left right liveLeft liveRight
  apply computes_checked (live_pair liveLeft liveRight)
  intro wellFormed
  unfold gate
  cases found : simple? solver.owner left right with
  | some simple =>
      exact Settles.computes (fun wellFormed => settles solver left right simple wellFormed liveLeft
        liveRight found) assignment wellFormed
  | none =>
      exact computes_define (defines solver left right wellFormed liveLeft liveRight) assignment
        wellFormed

/-- The simple cases of a conjunction are right: constants, equal and opposite operands. -/
theorem settles_simpleConj {solver : Solver} (wellFormed : solver.WellFormed) {left right : Lit}
    (liveLeft : solver.Live left) (liveRight : solver.Live right) {simple : Lit}
    (found : simpleConj? solver.owner left right = some simple) :
    solver.Settles (fun assignment =>
      Connective.conj.eval (assignment.value left) (assignment.value right)) simple := by
  simp only [Connective.eval]
  unfold simpleConj? at found
  split at found
  · rename_i absorbed
    cases found
    refine ⟨live_bot solver, fun assignment isTop => ?_⟩
    rcases absorbed with rfl | rfl <;> simp [Assignment.value_bot isTop]
  · split at found
    · rename_i neutral
      cases found
      refine ⟨liveRight, fun assignment isTop => ?_⟩
      simp [neutral, Assignment.value_top isTop]
    · split at found
      · rename_i kept
        cases found
        refine ⟨liveLeft, fun assignment isTop => ?_⟩
        rcases kept with rfl | rfl <;> simp [Assignment.value_top isTop]
      · split at found
        · rename_i opposite
          cases found
          refine ⟨live_bot solver, fun assignment isTop => ?_⟩
          simp [opposite, wellFormed.value_neg liveRight, Assignment.value_bot isTop]
        · cases found

/-- The clauses of a conjunction define it. -/
theorem defines_conj {solver : Solver} (wellFormed : solver.WellFormed) {left right : Lit}
    (liveLeft : solver.Live left) (liveRight : solver.Live right) :
    solver.Defines (conjClauses left right) fun assignment =>
      Connective.conj.eval (assignment.value left) (assignment.value right) where
  live := liveClauses_pair wellFormed liveLeft liveRight (by simp [conjClauses])
  all_eq := by
    intro assignment
    have wellFormedAfter := wellFormed.extended
    simp only [conjClauses, List.all_cons, List.all_nil, holdsAny, List.any_cons, List.any_nil,
      wellFormedAfter.value_neg liveLeft.extended, wellFormedAfter.value_neg liveRight.extended,
      wellFormedAfter.value_neg (live_nextLiteral wellFormed)]
    cases assignment.value left <;> cases assignment.value right <;>
      cases assignment.value solver.nextLiteral <;> rfl
  congr := by
    intro one other agree
    rw [wellFormed.value_congr liveLeft agree, wellFormed.value_congr liveRight agree]

/-- The gate for a conjunction realizes it, in simple cases and otherwise. -/
theorem realizes_conj (assignment : Assignment) :
    (literalValuation assignment).Realizes .conj conj :=
  realizes_gate assignment
    (fun _ _ _ _ wellFormed liveLeft liveRight found =>
      settles_simpleConj wellFormed liveLeft liveRight found)
    fun _ _ _ wellFormed liveLeft liveRight => defines_conj wellFormed liveLeft liveRight

/-- The simple cases of a disjunction are right: constants, equal and opposite operands. -/
theorem settles_simpleDisj {solver : Solver} (wellFormed : solver.WellFormed) {left right : Lit}
    (liveLeft : solver.Live left) (liveRight : solver.Live right) {simple : Lit}
    (found : simpleDisj? solver.owner left right = some simple) :
    solver.Settles (fun assignment =>
      Connective.disj.eval (assignment.value left) (assignment.value right)) simple := by
  simp only [Connective.eval]
  unfold simpleDisj? at found
  split at found
  · rename_i absorbed
    cases found
    refine ⟨live_top solver, fun assignment isTop => ?_⟩
    rcases absorbed with rfl | rfl <;> simp [Assignment.value_top isTop]
  · split at found
    · rename_i neutral
      cases found
      refine ⟨liveRight, fun assignment isTop => ?_⟩
      simp [neutral, Assignment.value_bot isTop]
    · split at found
      · rename_i kept
        cases found
        refine ⟨liveLeft, fun assignment isTop => ?_⟩
        rcases kept with rfl | rfl <;> simp [Assignment.value_bot isTop]
      · split at found
        · rename_i opposite
          cases found
          refine ⟨live_top solver, fun assignment isTop => ?_⟩
          simp [opposite, wellFormed.value_neg liveRight, Assignment.value_top isTop]
        · cases found

/-- The clauses of a disjunction define it. -/
theorem defines_disj {solver : Solver} (wellFormed : solver.WellFormed) {left right : Lit}
    (liveLeft : solver.Live left) (liveRight : solver.Live right) :
    solver.Defines (disjClauses left right) fun assignment =>
      Connective.disj.eval (assignment.value left) (assignment.value right) where
  live := liveClauses_pair wellFormed liveLeft liveRight (by simp [disjClauses])
  all_eq := by
    intro assignment
    have wellFormedAfter := wellFormed.extended
    simp only [disjClauses, List.all_cons, List.all_nil, holdsAny, List.any_cons, List.any_nil,
      wellFormedAfter.value_neg liveLeft.extended, wellFormedAfter.value_neg liveRight.extended,
      wellFormedAfter.value_neg (live_nextLiteral wellFormed)]
    cases assignment.value left <;> cases assignment.value right <;>
      cases assignment.value solver.nextLiteral <;> rfl
  congr := by
    intro one other agree
    rw [wellFormed.value_congr liveLeft agree, wellFormed.value_congr liveRight agree]

/-- The gate for a disjunction realizes it, in simple cases and otherwise. -/
theorem realizes_disj (assignment : Assignment) :
    (literalValuation assignment).Realizes .disj disj :=
  realizes_gate assignment
    (fun _ _ _ _ wellFormed liveLeft liveRight found =>
      settles_simpleDisj wellFormed liveLeft liveRight found)
    fun _ _ _ wellFormed liveLeft liveRight => defines_disj wellFormed liveLeft liveRight

/-- The simple cases of an exclusive disjunction are right: constants, equal and opposite operands. -/
theorem settles_simpleXor {solver : Solver} (wellFormed : solver.WellFormed) {left right : Lit}
    (liveLeft : solver.Live left) (liveRight : solver.Live right) {simple : Lit}
    (found : simpleXor? solver.owner left right = some simple) :
    solver.Settles (fun assignment =>
      Connective.xor.eval (assignment.value left) (assignment.value right)) simple := by
  simp only [Connective.eval]
  unfold simpleXor? at found
  split at found
  · rename_i isTop
    cases found
    refine ⟨liveRight.neg, fun assignment holds => ?_⟩
    simp only [isTop, Assignment.value_top holds, wellFormed.value_neg liveRight, Bool.true_bne]
  · split at found
    · rename_i isBot
      cases found
      refine ⟨liveRight, fun assignment holds => ?_⟩
      simp only [isBot, Assignment.value_bot holds, Bool.false_bne]
    · split at found
      · rename_i isTop
        cases found
        refine ⟨liveLeft.neg, fun assignment holds => ?_⟩
        simp only [isTop, Assignment.value_top holds, wellFormed.value_neg liveLeft, Bool.bne_true]
      · split at found
        · rename_i isBot
          cases found
          refine ⟨liveLeft, fun assignment holds => ?_⟩
          simp only [isBot, Assignment.value_bot holds, Bool.bne_false]
        · split at found
          · rename_i same
            cases found
            refine ⟨live_bot solver, fun assignment holds => ?_⟩
            simp only [same, Assignment.value_bot holds, bne_self_eq_false]
          · split at found
            · rename_i opposite
              cases found
              refine ⟨live_top solver, fun assignment holds => ?_⟩
              simp only [opposite, wellFormed.value_neg liveRight, Assignment.value_top holds]
              cases assignment.value right <;> rfl
            · cases found

/-- The clauses of an exclusive disjunction define it. -/
theorem defines_xor {solver : Solver} (wellFormed : solver.WellFormed) {left right : Lit}
    (liveLeft : solver.Live left) (liveRight : solver.Live right) :
    solver.Defines (xorClauses left right) fun assignment =>
      Connective.xor.eval (assignment.value left) (assignment.value right) where
  live := liveClauses_pair wellFormed liveLeft liveRight (by simp [xorClauses])
  all_eq := by
    intro assignment
    have wellFormedAfter := wellFormed.extended
    simp only [xorClauses, List.all_cons, List.all_nil, holdsAny, List.any_cons, List.any_nil,
      wellFormedAfter.value_neg liveLeft.extended, wellFormedAfter.value_neg liveRight.extended,
      wellFormedAfter.value_neg (live_nextLiteral wellFormed)]
    cases assignment.value left <;> cases assignment.value right <;>
      cases assignment.value solver.nextLiteral <;> rfl
  congr := by
    intro one other agree
    rw [wellFormed.value_congr liveLeft agree, wellFormed.value_congr liveRight agree]

/-- The gate for an exclusive disjunction realizes it, in simple cases and otherwise. -/
theorem realizes_xor (assignment : Assignment) :
    (literalValuation assignment).Realizes .xor xor :=
  realizes_gate assignment
    (fun _ _ _ _ wellFormed liveLeft liveRight found =>
      settles_simpleXor wellFormed liveLeft liveRight found)
    fun _ _ _ wellFormed liveLeft liveRight => defines_xor wellFormed liveLeft liveRight

/-! ## Gates with any number of operands -/

/-- Whether the value that decides a conjunction or a disjunction is among some values, as the value
that the operation has then. -/
def quantified (absorbed : Bool) (values : List Bool) : Bool :=
  values.any (· == absorbed) == absorbed

theorem quantified_false (values : List Bool) : quantified false values = values.all id := by
  induction values with
  | nil => rfl
  | cons value values hypothesis =>
      rw [quantified] at hypothesis ⊢
      rw [List.any_cons, List.all_cons, ← hypothesis]
      cases value <;> cases values.any (· == false) <;> rfl

theorem quantified_true (values : List Bool) : quantified true values = values.any id := by
  induction values with
  | nil => rfl
  | cons value values hypothesis =>
      rw [quantified] at hypothesis ⊢
      rw [List.any_cons, List.any_cons, ← hypothesis]
      cases value <;> cases values.any (· == true) <;> rfl

/-- One value that absorbs the others decides. -/
theorem quantified_of_mem {absorbed : Bool} {values : List Bool} (member : absorbed ∈ values) :
    quantified absorbed values = absorbed := by
  have found : values.any (· == absorbed) = true :=
    List.any_eq_true.2 ⟨absorbed, member, beq_self_eq_true absorbed⟩
  rw [quantified, found, Bool.true_beq]

/-- Leaving out literals with the other value, and all but one occurrence of each literal, does not
change the value. -/
theorem quantified_congr {absorbed : Bool} {values others : List Bool}
    (same : absorbed ∈ values ↔ absorbed ∈ others) :
    quantified absorbed values = quantified absorbed others := by
  have found : values.any (· == absorbed) = others.any (· == absorbed) := by
    rw [Bool.eq_iff_iff, List.any_beq', List.any_beq', List.contains_iff_mem, List.contains_iff_mem]
    exact same
  rw [quantified, quantified, found]

/-- Only literals that were given are collected. -/
theorem mem_of_collectLits {neutral absorbing : Lit} {found literals distinct : List Lit}
    (collected : collectLits neutral absorbing found literals = some distinct) {literal : Lit}
    (member : literal ∈ distinct) : literal ∈ found ++ literals := by
  induction literals generalizing found with
  | nil =>
      cases collected
      simpa using member
  | cons first literals hypothesis =>
      rw [collectLits] at collected
      split at collected
      · cases collected
      · split at collected
        · have earlier := hypothesis collected
          simp only [List.mem_append, List.mem_cons] at earlier ⊢
          rcases earlier with inFound | inRest
          · exact Or.inl inFound
          · exact Or.inr (Or.inr inRest)
        · simpa using hypothesis collected

/-- What is collected of some literals decides an operation in the same way as all of them, and nothing
is collected where two of them are opposite or one of them decides it alone. -/
theorem quantified_collectLits {neutral absorbing : Lit} {assignment : Assignment} {absorbed : Bool}
    (valuedNeutral : assignment.value neutral = !absorbed)
    (valuedAbsorbing : assignment.value absorbing = absorbed) {found literals : List Lit}
    (valuedNeg : ∀ literal ∈ literals, assignment.value literal.neg = !assignment.value literal) :
    quantified absorbed ((found ++ literals).map assignment.value) =
      (collectLits neutral absorbing found literals).elim absorbed
        fun distinct => quantified absorbed (distinct.map assignment.value) := by
  induction literals generalizing found with
  | nil => rw [List.append_nil, collectLits, Option.elim_some]
  | cons first literals hypothesis =>
      have valuedRest : ∀ literal ∈ literals,
          assignment.value literal.neg = !assignment.value literal :=
        fun literal member => valuedNeg literal (List.mem_cons_of_mem _ member)
      rw [collectLits]
      split
      · rename_i decided
        apply quantified_of_mem
        rcases decided with rfl | opposite
        · exact List.mem_map.2 ⟨first, by simp, valuedAbsorbing⟩
        · by_cases value : assignment.value first = absorbed
          · exact List.mem_map.2 ⟨first, by simp, value⟩
          · refine List.mem_map.2 ⟨first.neg, List.mem_append_left _ opposite, ?_⟩
            rw [valuedNeg first List.mem_cons_self]
            revert value
            cases assignment.value first <;> cases absorbed <;> simp
      · split
        · rename_i skipped
          rw [← hypothesis valuedRest]
          apply quantified_congr
          simp only [List.map_append, List.map_cons, List.mem_append, List.mem_cons]
          constructor
          · rintro (inFound | isFirst | inRest)
            · exact Or.inl inFound
            · rcases skipped with rfl | inFound
              · rw [valuedNeutral] at isFirst
                cases absorbed <;> cases isFirst
              · exact Or.inl (isFirst ▸ List.mem_map_of_mem inFound)
            · exact Or.inr inRest
          · rintro (inFound | inRest)
            · exact Or.inl inFound
            · exact Or.inr (Or.inr inRest)
        · rw [← hypothesis valuedRest, List.append_assoc, List.singleton_append]

/-- A gate with any number of operands: a constant, one of the operands, or else a new output. -/
def quantifier (neutral absorbing : Nat → Lit) (clauses : List Lit → Lit → List (List Lit))
    (literals : List Lit) (solver : Solver) : Act Solver Lit :=
  match distinctLits? (neutral solver.owner) (absorbing solver.owner) literals with
  | none => pure (absorbing solver.owner)
  | some [] => pure (neutral solver.owner)
  | some [literal] => pure literal
  | some found => define (clauses found)

/-- The constants that a gate with any number of operands has for its neutral and for its deciding
literal. -/
structure Decides (absorbed : Bool) (neutral absorbing : Nat → Lit) : Prop where
  live_neutral : ∀ solver : Solver, solver.Live (neutral solver.owner)
  live_absorbing : ∀ solver : Solver, solver.Live (absorbing solver.owner)
  value_neutral : ∀ {assignment : Assignment}, assignment.holds 1 = true → ∀ owner : Nat,
    assignment.value (neutral owner) = !absorbed
  value_absorbing : ∀ {assignment : Assignment}, assignment.holds 1 = true → ∀ owner : Nat,
    assignment.value (absorbing owner) = absorbed

/-- Dropping neutral and repeated literals does not change what is quantified over, nor does stopping at one
that absorbs the others. -/
theorem quantified_distinct {absorbed : Bool} {neutral absorbing : Nat → Lit}
    (decides : Decides absorbed neutral absorbing) {solver : Solver} (wellFormed : solver.WellFormed)
    {literals : List Lit} (live : ∀ literal ∈ literals, solver.Live literal)
    {assignment : Assignment} (isTop : assignment.holds 1 = true) :
    quantified absorbed (literals.map assignment.value) =
      (distinctLits? (neutral solver.owner) (absorbing solver.owner) literals).elim absorbed
        fun distinct => quantified absorbed (distinct.map assignment.value) := by
  have valuedNeg : ∀ literal ∈ literals,
      assignment.value literal.neg = !assignment.value literal :=
    fun literal member => wellFormed.value_neg (live literal member) assignment
  have collected := @quantified_collectLits _ _ assignment absorbed
    (decides.value_neutral isTop solver.owner) (decides.value_absorbing isTop solver.owner) []
    literals valuedNeg
  rw [distinctLits?_eq]
  exact collected

/-- A quantifier has the right value in each of its cases: an absorbing literal, none, one, and several of
them, for which a gate is defined. -/
theorem computes_quantifier {absorbed : Bool} {neutral absorbing : Nat → Lit}
    {clauses : List Lit → Lit → List (List Lit)} (decides : Decides absorbed neutral absorbing)
    {solver : Solver} {literals : List Lit} (assignment : Assignment)
    (live : ∀ literal ∈ literals, solver.Live literal)
    (defines : ∀ distinct, WellFormed solver → (∀ literal ∈ distinct, solver.Live literal) →
      solver.Defines (clauses distinct) fun assignment =>
        quantified absorbed (distinct.map assignment.value)) :
    (literalValuation assignment).Computes solver
      (quantifier neutral absorbing clauses literals solver)
      (quantified absorbed (literals.map assignment.value)) := by
  intro wellFormed
  let meaning (assignment : Assignment) := quantified absorbed (literals.map assignment.value)
  have same : ∀ assignment : Assignment, assignment.holds 1 = true → meaning assignment = _ :=
    fun assignment isTop => quantified_distinct decides wellFormed live isTop
  have liveDistinct : ∀ distinct,
      distinctLits? (neutral solver.owner) (absorbing solver.owner) literals = some distinct →
        ∀ literal ∈ distinct, solver.Live literal := by
    intro distinct collected literal member
    rw [distinctLits?_eq] at collected
    exact live literal (mem_of_collectLits collected member)
  unfold quantifier
  cases collected : distinctLits? (neutral solver.owner) (absorbing solver.owner) literals with
  | none =>
      have settled : solver.Settles meaning (absorbing solver.owner) := by
        refine ⟨decides.live_absorbing solver, fun other isTop => ?_⟩
        rw [same other isTop, collected]
        exact decides.value_absorbing isTop _
      exact Settles.computes (fun _ => settled) assignment wellFormed
  | some distinct =>
      have liveFound := liveDistinct distinct collected
      match distinct with
      | [] =>
          have settled : solver.Settles meaning (neutral solver.owner) := by
            refine ⟨decides.live_neutral solver, fun other isTop => ?_⟩
            rw [same other isTop, collected, decides.value_neutral isTop]
            cases absorbed <;> rfl
          exact Settles.computes (fun _ => settled) assignment wellFormed
      | [literal] =>
          have settled : solver.Settles meaning literal := by
            refine ⟨liveFound literal List.mem_cons_self, fun other isTop => ?_⟩
            rw [same other isTop, collected, Option.elim_some, List.map_singleton]
            cases absorbed <;> cases other.value literal <;> rfl
          exact Settles.computes (fun _ => settled) assignment wellFormed
      | first :: second :: rest =>
          refine Valuation.Runs.weaken (computes_define (defines _ wellFormed liveFound) assignment)
            (fun next result reached ⟨liveResult, valued⟩ => ⟨liveResult, fun consistent => ?_⟩)
            wellFormed
          have before := (literalValuation assignment).consistent_of_reaches reached consistent
          have whole := same assignment (WellFormed.top_holds wellFormed before)
          rw [collected] at whole
          exact (valued consistent).trans whole.symm

/-- A gate with any number of operands is right if its clauses define its output. -/
theorem realizes_quantifier {aggregate : Aggregate} {absorbed : Bool} {neutral absorbing : Nat → Lit}
    {clauses : List Lit → Lit → List (List Lit)} (assignment : Assignment)
    (means : ∀ values, aggregate.eval values = some (quantified absorbed values))
    (decides : Decides absorbed neutral absorbing)
    (defines : ∀ solver literals, WellFormed solver → (∀ literal ∈ literals, Live solver literal) →
      solver.Defines (clauses literals) fun assignment =>
        quantified absorbed (literals.map assignment.value)) :
    (literalValuation assignment).RealizesAggregate aggregate
      (fun literals => do
        checkAll literals
        quantifier neutral absorbing clauses literals (← get)) := by
  intro solver literals live
  rw [means]
  apply computes_checked live
  exact computes_quantifier decides assignment live (defines solver)

theorem liveClauses_output {solver : Solver} (wellFormed : solver.WellFormed) {literals : List Lit}
    (live : ∀ literal ∈ literals, solver.Live literal) {clauses : List (List Lit)}
    (made : ∀ clause ∈ clauses, ∀ literal ∈ clause, literal ∈ literals ∨
      literal ∈ literals.map Lit.neg ∨ literal ∈ [solver.nextLiteral, solver.nextLiteral.neg]) :
    solver.extended.LiveClauses clauses := by
  have liveOutput := live_nextLiteral wellFormed
  intro clause inside literal member
  rcases made clause inside literal member with given | opposite | isOutput
  · exact (live literal given).extended
  · obtain ⟨original, given, rfl⟩ := List.mem_map.1 opposite
    exact (live original given).extended.neg
  · simp only [List.mem_cons, List.not_mem_nil, or_false] at isOutput
    rcases isOutput with rfl | rfl
    · exact liveOutput
    · exact liveOutput.neg

/-- A conjunction of many is decided by a false one, and true ones do not matter to it. -/
theorem decides_all : Decides false top bot where
  live_neutral := live_top
  live_absorbing := live_bot
  value_neutral := Assignment.value_top
  value_absorbing := Assignment.value_bot

/-- A disjunction of many is decided by a true one, and false ones do not matter to it. -/
theorem decides_any : Decides true bot top where
  live_neutral := live_bot
  live_absorbing := live_top
  value_neutral := Assignment.value_bot
  value_absorbing := Assignment.value_top

theorem holdsAny_append (assignment : Assignment) (lefts rights : List Lit) :
    holdsAny assignment (lefts ++ rights) =
      (holdsAny assignment lefts || holdsAny assignment rights) :=
  List.any_append

/-- One of some negations holds where not all of the literals do. -/
theorem holdsAny_neg {solver : Solver} (wellFormed : solver.WellFormed) {literals : List Lit}
    (live : ∀ literal ∈ literals, solver.Live literal) (assignment : Assignment) :
    holdsAny assignment (literals.map Lit.neg) = !literals.all assignment.value := by
  induction literals with
  | nil => rfl
  | cons literal literals hypothesis =>
      have rest := hypothesis fun other member => live other (List.mem_cons_of_mem _ member)
      rw [holdsAny] at rest ⊢
      rw [List.map_cons, List.any_cons, rest, List.all_cons, Bool.not_and,
        wellFormed.value_neg (live literal List.mem_cons_self)]

/-- The clauses with one operand each say that no operand has another value than the output allows. -/
theorem all_holdsAny_single {literals : List Lit} {clause : Lit → List Lit} {assignment : Assignment}
    {value : Lit → Bool} {allowed : Bool}
    (same : ∀ literal ∈ literals, holdsAny assignment (clause literal) = (value literal || allowed)) :
    (literals.map clause).all (holdsAny assignment) = (literals.all value || allowed) := by
  induction literals with
  | nil => rfl
  | cons literal literals hypothesis =>
      have rest := hypothesis fun other member => same other (List.mem_cons_of_mem _ member)
      rw [List.map_cons, List.all_cons, rest, same literal List.mem_cons_self, List.all_cons]
      cases value literal <;> cases allowed <;> simp

theorem mem_allClauses {literals : List Lit} {output : Lit} {clause : List Lit}
    (inside : clause ∈ allClauses literals output) {literal : Lit} (member : literal ∈ clause) :
    literal ∈ literals ∨ literal ∈ literals.map Lit.neg ∨ literal ∈ [output, output.neg] := by
  rcases List.mem_append.1 inside with single | whole
  · obtain ⟨original, given, rfl⟩ := List.mem_map.1 single
    simp only [List.mem_cons, List.not_mem_nil, or_false] at member ⊢
    rcases member with rfl | rfl
    · exact Or.inl given
    · exact Or.inr (Or.inr (Or.inr rfl))
  · rw [List.mem_singleton.1 whole] at member
    rcases List.mem_append.1 member with opposite | isOutput
    · exact Or.inr (Or.inl opposite)
    · exact Or.inr (Or.inr (List.mem_cons.2 (Or.inl (List.mem_singleton.1 isOutput))))

/-- The clauses of a conjunction of many define it. -/
theorem defines_all {solver : Solver} (wellFormed : solver.WellFormed) {literals : List Lit}
    (live : ∀ literal ∈ literals, solver.Live literal) :
    solver.Defines (allClauses literals) fun assignment =>
      quantified false (literals.map assignment.value) where
  live := liveClauses_output wellFormed live fun _ inside _ member => mem_allClauses inside member
  all_eq := by
    intro assignment
    have valuedOutput := wellFormed.extended.value_neg (live_nextLiteral wellFormed) assignment
    have singles : (literals.map fun literal => [literal, solver.nextLiteral.neg]).all
        (holdsAny assignment) =
          (literals.all assignment.value || !assignment.value solver.nextLiteral) :=
      all_holdsAny_single fun literal _ => by simp [holdsAny, valuedOutput]
    rw [allClauses, List.all_append, singles, List.all_cons, List.all_nil, holdsAny_append,
      holdsAny_neg wellFormed live, quantified_false, List.all_map, Function.id_comp]
    simp only [holdsAny, List.any_cons, List.any_nil]
    cases literals.all assignment.value <;> cases assignment.value solver.nextLiteral <;> rfl
  congr := by
    intro one other agree
    have same : literals.map one.value = literals.map other.value :=
      List.map_congr_left fun literal member => wellFormed.value_congr (live literal member) agree
    rw [same]

/-- The gate for a conjunction of many realizes it. -/
theorem realizes_all (assignment : Assignment) :
    (literalValuation assignment).RealizesAggregate .all all :=
  realizes_quantifier assignment (fun values => congrArg some (quantified_false values).symm)
    decides_all fun _ _ wellFormed live => defines_all wellFormed live

theorem mem_anyClauses {literals : List Lit} {output : Lit} {clause : List Lit}
    (inside : clause ∈ anyClauses literals output) {literal : Lit} (member : literal ∈ clause) :
    literal ∈ literals ∨ literal ∈ literals.map Lit.neg ∨ literal ∈ [output, output.neg] := by
  rcases List.mem_append.1 inside with single | whole
  · obtain ⟨original, given, rfl⟩ := List.mem_map.1 single
    simp only [List.mem_cons, List.not_mem_nil, or_false] at member ⊢
    rcases member with rfl | rfl
    · exact Or.inr (Or.inl (List.mem_map_of_mem given))
    · exact Or.inr (Or.inr (Or.inl rfl))
  · rw [List.mem_singleton.1 whole] at member
    rcases List.mem_append.1 member with given | isOutput
    · exact Or.inl given
    · exact Or.inr (Or.inr (List.mem_cons_of_mem _ isOutput))

theorem defines_any {solver : Solver} (wellFormed : solver.WellFormed) {literals : List Lit}
    (live : ∀ literal ∈ literals, solver.Live literal) :
    solver.Defines (anyClauses literals) fun assignment =>
      quantified true (literals.map assignment.value) where
  live := liveClauses_output wellFormed live fun _ inside _ member => mem_anyClauses inside member
  all_eq := by
    intro assignment
    have valuedOutput := wellFormed.extended.value_neg (live_nextLiteral wellFormed) assignment
    have singles : (literals.map fun literal => [literal.neg, solver.nextLiteral]).all
        (holdsAny assignment) =
          ((literals.all fun literal => !assignment.value literal) ||
            assignment.value solver.nextLiteral) :=
      all_holdsAny_single fun literal member => by
        simp [holdsAny, wellFormed.value_neg (live literal member)]
    rw [anyClauses, List.all_append, singles, List.all_cons, List.all_nil, holdsAny_append,
      quantified_true, List.any_map, Function.id_comp, List.all_eq_not_any_not]
    simp only [holdsAny, List.any_cons, List.any_nil, valuedOutput, Bool.not_not]
    cases literals.any assignment.value <;> cases assignment.value solver.nextLiteral <;> rfl
  congr := by
    intro one other agree
    have same : literals.map one.value = literals.map other.value :=
      List.map_congr_left fun literal member => wellFormed.value_congr (live literal member) agree
    rw [same]

theorem realizes_any (assignment : Assignment) :
    (literalValuation assignment).RealizesAggregate .any any :=
  realizes_quantifier assignment (fun values => congrArg some (quantified_true values).symm)
    decides_any fun _ _ wellFormed live => defines_any wellFormed live

end Solver

end TensorLogic
