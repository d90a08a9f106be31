/-
Module: TensorLogic.Proofs.Solver.Twin
Purpose: Two solvers with the same formula cannot be told apart by what is built, searched and decoded on
  them, whatever happened to each of them before.
Main exports: Solver.InStep, Solver.Gains, Solver.Era, Solver.pairing, Solver.Twin, Solver.twin_solve,
  Solver.twin_decode, Solver.matches_pairing
-/
import TensorLogic.Proofs.Solver.Building
import TensorLogic.Proofs.Solver.Gates
import TensorLogic.Proofs.Solver.Uniform

namespace TensorLogic.Solver

open Bridge

/-! ## Two solvers in step -/

/-- Two solvers have the same formula, and know the same about it; and their engines answer the same
questions alike, however many questions were asked before. -/
structure InStep (left right : Solver) : Prop where
  numVars_eq : left.backend.numVars = right.backend.numVars
  clauses_eq : left.backend.clauses = right.backend.clauses
  decision_eq : left.backend.decision = right.backend.decision
  answers_eq : ∀ round other numVars formula, left.backend.engine.decide round numVars formula =
    right.backend.engine.decide other numVars formula

/-- How many variables were allocated, clauses asserted and searches made. -/
structure Work where
  allocated : Nat
  asserted : Nat
  searched : Nat

/-- The totals of a solver have gained by some work. -/
structure Gains (work : Work) (before after : Solver) : Prop where
  totalVariables_eq : after.totalVariables = before.totalVariables + work.allocated
  totalClauses_eq : after.totalClauses = before.totalClauses + work.asserted
  totalSolves_eq : after.totalSolves = before.totalSolves + work.searched

theorem Gains.none (solver : Solver) : Gains ⟨0, 0, 0⟩ solver solver := ⟨rfl, rfl, rfl⟩

/-- What two stretches of work gain adds up. -/
theorem Gains.trans {work more : Work} {first second third : Solver} (one : Gains work first second)
    (two : Gains more second third) :
    Gains ⟨work.allocated + more.allocated, work.asserted + more.asserted,
      work.searched + more.searched⟩ first third where
  totalVariables_eq := by rw [two.totalVariables_eq, one.totalVariables_eq, Nat.add_assoc]
  totalClauses_eq := by rw [two.totalClauses_eq, one.totalClauses_eq, Nat.add_assoc]
  totalSolves_eq := by rw [two.totalSolves_eq, one.totalSolves_eq, Nat.add_assoc]

/-- A formula of a solver, which is told from all others by the number of the solver and its own. -/
structure Era where
  owner : Nat
  period : Nat

/-- The present formula of a solver. -/
def era (solver : Solver) : Era := ⟨solver.owner, solver.period⟩

/-- Two solvers in step, each with one formula, to which the same work is done. -/
def pairing (left right : Era) : Bridge Solver Solver where
  Valid := fun states => InStep states.1 states.2 ∧ states.1.era = left ∧ states.2.era = right
  Reaches := fun before after =>
    ∃ work, Gains work before.1 after.1 ∧ Gains work before.2 after.2
  reaches_refl := fun states => ⟨_, .none states.1, .none states.2⟩
  reaches_trans := fun ⟨_, one, oneRight⟩ ⟨_, two, twoRight⟩ =>
    ⟨_, one.trans two, oneRight.trans twoRight⟩

/-- A literal of one solver and the one of the other that takes its place: both are constants or of the
formulas, and they have the same code. -/
def Twin (first second : Era) (left right : Lit) : Prop :=
  left.code = right.code ∧
    (left.scope = .constants first.owner ∧ right.scope = .constants second.owner ∨
      left.scope = .formula first.owner first.period ∧
        right.scope = .formula second.owner second.period)

variable {first second : Era} {states : Solver × Solver} {left right : Lit} {lefts rights : List Lit}

/-- Which literals take each other's place does not depend on the states. -/
theorem stable_twin : (pairing first second).Stable fun _ => Twin first second :=
  fun _ _ _ _ _ twin => twin

namespace Twin

/-- Each of two solvers owns its own twin. -/
theorem owns (twin : Twin first second left right) (valid : (pairing first second).Valid states) :
    states.1.Owns left ∧ states.2.Owns right := by
  obtain ⟨_, rfl, rfl⟩ := valid
  rcases twin.2 with ⟨isLeft, isRight⟩ | ⟨isLeft, isRight⟩
  · exact ⟨Or.inr isLeft, Or.inr isRight⟩
  · exact ⟨Or.inl isLeft, Or.inl isRight⟩

theorem neg (twin : Twin first second left right) : Twin first second left.neg right.neg :=
  ⟨congrArg Neg.neg twin.1, twin.2⟩

theorem top (first second : Era) :
    Twin first second (Solver.top first.owner) (Solver.top second.owner) :=
  ⟨rfl, Or.inl ⟨rfl, rfl⟩⟩

theorem bot (first second : Era) :
    Twin first second (Solver.bot first.owner) (Solver.bot second.owner) :=
  ⟨rfl, Or.inl ⟨rfl, rfl⟩⟩

/-- Twins are told apart alike. -/
theorem eq_iff {other otherRight : Lit} (twin : Twin first second left right)
    (further : Twin first second other otherRight) : left = other ↔ right = otherRight := by
  obtain ⟨scope, code⟩ := left
  obtain ⟨scopeRight, codeRight⟩ := right
  obtain ⟨otherScope, otherCode⟩ := other
  obtain ⟨otherScopeRight, otherCodeRight⟩ := otherRight
  obtain ⟨rfl, scopes⟩ := twin
  obtain ⟨rfl, otherScopes⟩ := further
  rcases scopes with ⟨rfl, rfl⟩ | ⟨rfl, rfl⟩ <;> rcases otherScopes with ⟨rfl, rfl⟩ | ⟨rfl, rfl⟩ <;>
    simp

/-- Twins are looked for with the same result. -/
theorem mem_iff (twin : Twin first second left right)
    (twins : List.Forall₂ (Twin first second) lefts rights) : left ∈ lefts ↔ right ∈ rights := by
  induction twins with
  | nil => simp
  | cons head _ hypothesis => rw [List.mem_cons, List.mem_cons, twin.eq_iff head, hypothesis]

end Twin

theorem twins_neg (twins : List.Forall₂ (Twin first second) lefts rights) :
    List.Forall₂ (Twin first second) (lefts.map Lit.neg) (rights.map Lit.neg) := by
  rw [List.forall₂_map_left_iff, List.forall₂_map_right_iff]
  exact twins.imp fun _ _ => Twin.neg

/-- Twins have the same codes. -/
theorem twins_code (twins : List.Forall₂ (Twin first second) lefts rights) :
    lefts.map Lit.code = rights.map Lit.code := by
  rw [← List.forall₂_eq_eq_eq, List.forall₂_map_left_iff, List.forall₂_map_right_iff]
  exact twins.imp fun _ _ twin => twin.1

/-! ## Building -/

/-- Each of two solvers accepts its own twin. -/
theorem twin_check (twin : Twin first second left right) :
    (pairing first second).Corresponds states (check left) (check right) fun _ _ _ => True := by
  refine .of_valid fun valid => ?_
  obtain ⟨owns, ownsRight⟩ := twin.owns valid
  exact .of_runs (runOn_check owns) (runOn_check ownsRight) id
    ((pairing first second).reaches_refl states) (.ok trivial)

theorem twin_checkAll (twins : List.Forall₂ (Twin first second) lefts rights) :
    (pairing first second).Corresponds states (checkAll lefts) (checkAll rights)
      fun _ _ _ => True :=
  .forM stable_twin (fun _ _ _ => twin_check) twins

/-- Two solvers allocate twins. -/
theorem twin_newVariable :
    (pairing first second).Corresponds states newVariable newVariable
      fun _ => Twin first second := by
  refine .of_valid fun ⟨inStep, isLeft, isRight⟩ => ?_
  have validAfter : (pairing first second).Valid (states.1.extended, states.2.extended) :=
    ⟨⟨congrArg Nat.succ inStep.numVars_eq, inStep.clauses_eq, inStep.decision_eq,
      inStep.answers_eq⟩, isLeft, isRight⟩
  have reached : (pairing first second).Reaches states (states.1.extended, states.2.extended) :=
    ⟨⟨1, 0, 0⟩, ⟨rfl, rfl, rfl⟩, ⟨rfl, rfl, rfl⟩⟩
  have twin : Twin first second states.1.nextLiteral states.2.nextLiteral := by
    subst isLeft isRight
    refine ⟨?_, Or.inr ⟨rfl, rfl⟩⟩
    unfold nextLiteral
    rw [inStep.numVars_eq]
  exact .of_runs (runOn_newVariable states.1) (runOn_newVariable states.2) (fun _ => validAfter)
    reached (.ok twin)

/-- A clause as the back-end accepts or refuses it. -/
theorem runOn_keep (clause : Clause) (solver : Solver) :
    (do
      onBackend (Backend.addClause clause.written)
      modify fun solver => { solver with totalClauses := solver.totalClauses + 1 }
        : Act Solver Unit).runOn solver =
      match clause.written.find? (fun literal =>
          !decide (IsLiteral solver.backend.numVars literal.value)) with
      | some literal =>
          (.error (.invalidLiteral (.ofWhole literal) solver.backend.numVars), solver)
      | none => (.ok (), solver.pushed clause) := by
  rw [Act.runOn_bind, runOn_onBackend, Backend.runOn_addClause_eq]
  cases clause.written.find? (fun literal =>
    !decide (IsLiteral solver.backend.numVars literal.value)) <;> rfl

/-- What is kept of a clause is accepted by both solvers, or refused for the same literal. -/
theorem twin_keep (clause : Clause) :
    (pairing first second).Corresponds states
      (do
        onBackend (Backend.addClause clause.written)
        modify fun solver => { solver with totalClauses := solver.totalClauses + 1 })
      (do
        onBackend (Backend.addClause clause.written)
        modify fun solver => { solver with totalClauses := solver.totalClauses + 1 })
      fun _ _ _ => True := by
  refine .of_valid fun ⟨inStep, isLeft, isRight⟩ => ?_
  have ran := runOn_keep clause states.1
  have ranRight := runOn_keep clause states.2
  rw [inStep.numVars_eq] at ran
  cases found : clause.written.find? (fun literal =>
      !decide (IsLiteral states.2.backend.numVars literal.value)) with
  | some literal =>
      rw [found] at ran ranRight
      exact .of_runs ran ranRight id ((pairing first second).reaches_refl states) (.error _)
  | none =>
      rw [found] at ran ranRight
      have validAfter :
          (pairing first second).Valid (states.1.pushed clause, states.2.pushed clause) :=
        ⟨⟨inStep.numVars_eq, congrArg (Array.push · clause.written) inStep.clauses_eq, rfl,
          inStep.answers_eq⟩, isLeft, isRight⟩
      have reached : (pairing first second).Reaches states
          (states.1.pushed clause, states.2.pushed clause) :=
        ⟨⟨0, 1, 0⟩, ⟨rfl, rfl, rfl⟩, ⟨rfl, rfl, rfl⟩⟩
      exact .of_runs ran ranRight (fun _ => validAfter) reached (.ok trivial)

/-- Clauses of twins are accepted by both, and add the same numbers to both formulas. -/
theorem twin_addClause (twins : List.Forall₂ (Twin first second) lefts rights) :
    (pairing first second).Corresponds states (addClause lefts) (addClause rights)
      fun _ _ _ => True := by
  unfold addClause
  rw [twins_code twins]
  refine (twin_checkAll twins).bind fun middle _ _ _ _ _ => ?_
  cases simplify? (rights.map Lit.code) with
  | none => exact .pure trivial
  | some clause => exact twin_keep clause

/-- Twin clauses define twin outputs. -/
theorem twin_define {clauses clausesRight : Lit → List (List Lit)}
    (made : ∀ output outputRight, Twin first second output outputRight →
      List.Forall₂ (List.Forall₂ (Twin first second)) (clauses output)
        (clausesRight outputRight)) :
    (pairing first second).Corresponds states (define clauses) (define clausesRight)
      fun _ => Twin first second := by
  refine twin_newVariable.bind fun middle output outputRight _ _ twin => ?_
  have asserts : (pairing first second).Corresponds middle ((clauses output).forM addClause)
      ((clausesRight outputRight).forM addClause) fun _ _ _ => True :=
    .forM stable_twin.list (fun _ _ _ => twin_addClause) (made output outputRight twin)
  exact asserts.bind fun last _ _ _ _ _ => .pure twin

/-! ## Gates -/

theorem twin_neg : (pairing first second).Unary (fun _ => Twin first second) neg neg :=
  fun _ _ _ twin => (twin_check twin).bind fun _ _ _ _ _ _ => .pure twin.neg

/-- Both sides decide the same. -/
theorem rel_ite {α β : Type} {Related : α → β → Prop} {condition other : Prop} [Decidable condition]
    [Decidable other] {found otherwise : Option α} {foundRight otherwiseRight : Option β}
    (same : condition ↔ other) (yes : Option.Rel Related found foundRight)
    (no : Option.Rel Related otherwise otherwiseRight) :
    Option.Rel Related (if condition then found else otherwise)
      (if other then foundRight else otherwiseRight) := by
  by_cases holds : condition
  · rwa [if_pos holds, if_pos (same.1 holds)]
  · rwa [if_neg holds, if_neg fun holdsOther => holds (same.2 holdsOther)]

/-- Of twin operands both solvers make the same of a gate with two operands. -/
theorem twin_gate {simple? : Nat → Lit → Lit → Option Lit} {clauses : Lit → Lit → Lit → List (List Lit)}
    (simple : ∀ {left right other otherRight : Lit}, Twin first second left right →
      Twin first second other otherRight →
        Option.Rel (Twin first second) (simple? first.owner left other)
          (simple? second.owner right otherRight))
    (made : ∀ {left right other otherRight output outputRight : Lit},
      Twin first second left right → Twin first second other otherRight →
        Twin first second output outputRight →
          List.Forall₂ (List.Forall₂ (Twin first second)) (clauses left other output)
            (clauses right otherRight outputRight)) :
    (pairing first second).Binary (fun _ => Twin first second)
      (fun left other => do
        checkAll [left, other]
        gate simple? clauses left other (← get))
      (fun left other => do
        checkAll [left, other]
        gate simple? clauses left other (← get)) := by
  intro states left right other otherRight twin further
  refine (twin_checkAll (.cons twin (.cons further .nil))).bind fun middle _ _ valid _ _ => ?_
  obtain ⟨_, isLeft, isRight⟩ := valid
  have found := simple twin further
  rw [← isLeft, ← isRight] at found
  refine .getBind ?_
  unfold gate
  change Option.Rel _ (simple? middle.1.owner left other)
    (simple? middle.2.owner right otherRight) at found
  generalize simple? middle.1.owner left other = one at found ⊢
  generalize simple? middle.2.owner right otherRight = two at found ⊢
  cases found with
  | some result => exact .pure (isLeft ▸ isRight ▸ result)
  | none => exact twin_define fun output outputRight twinOutput => made twin further twinOutput

/-- Conjunctions of twins are twins, and take the same clauses. -/
theorem twin_conj : (pairing first second).Binary (fun _ => Twin first second) conj conj := by
  have bot := Twin.bot first second
  have top := Twin.top first second
  refine @twin_gate first second simpleConj? conjClauses ?_ ?_
  · intro left right other otherRight twin further
    exact rel_ite (or_congr (twin.eq_iff bot) (further.eq_iff bot)) (.some bot)
      (rel_ite (twin.eq_iff top) (.some further)
        (rel_ite (or_congr (further.eq_iff top) (twin.eq_iff further)) (.some twin)
          (rel_ite (twin.eq_iff further.neg) (.some bot) .none)))
  · intro left right other otherRight output outputRight twin further twinOutput
    exact .cons (.cons twin (.cons twinOutput.neg .nil))
      (.cons (.cons further (.cons twinOutput.neg .nil))
        (.cons (.cons twin.neg (.cons further.neg (.cons twinOutput .nil))) .nil))

/-- Disjunctions of twins are twins, and take the same clauses. -/
theorem twin_disj : (pairing first second).Binary (fun _ => Twin first second) disj disj := by
  have bot := Twin.bot first second
  have top := Twin.top first second
  refine @twin_gate first second simpleDisj? disjClauses ?_ ?_
  · intro left right other otherRight twin further
    exact rel_ite (or_congr (twin.eq_iff top) (further.eq_iff top)) (.some top)
      (rel_ite (twin.eq_iff bot) (.some further)
        (rel_ite (or_congr (further.eq_iff bot) (twin.eq_iff further)) (.some twin)
          (rel_ite (twin.eq_iff further.neg) (.some top) .none)))
  · intro left right other otherRight output outputRight twin further twinOutput
    exact .cons (.cons twin.neg (.cons twinOutput .nil))
      (.cons (.cons further.neg (.cons twinOutput .nil))
        (.cons (.cons twin (.cons further (.cons twinOutput.neg .nil))) .nil))

/-- Exclusive disjunctions of twins are twins, and take the same clauses. -/
theorem twin_xor : (pairing first second).Binary (fun _ => Twin first second) xor xor := by
  have bot := Twin.bot first second
  have top := Twin.top first second
  refine @twin_gate first second simpleXor? xorClauses ?_ ?_
  · intro left right other otherRight twin further
    exact rel_ite (twin.eq_iff top) (.some further.neg)
      (rel_ite (twin.eq_iff bot) (.some further)
        (rel_ite (further.eq_iff top) (.some twin.neg)
          (rel_ite (further.eq_iff bot) (.some twin)
            (rel_ite (twin.eq_iff further) (.some bot)
              (rel_ite (twin.eq_iff further.neg) (.some top) .none)))))
  · intro left right other otherRight output outputRight twin further twinOutput
    exact .cons (.cons twin (.cons further (.cons twinOutput.neg .nil)))
      (.cons (.cons twin (.cons further.neg (.cons twinOutput .nil)))
        (.cons (.cons twin.neg (.cons further (.cons twinOutput .nil)))
          (.cons (.cons twin.neg (.cons further.neg (.cons twinOutput.neg .nil))) .nil)))

/-- The different literals among twins are twins. -/
theorem twin_collectLits {neutral absorbing neutralRight absorbingRight : Lit}
    (twinNeutral : Twin first second neutral neutralRight)
    (twinAbsorbing : Twin first second absorbing absorbingRight) {found foundRight : List Lit}
    (twinsFound : List.Forall₂ (Twin first second) found foundRight)
    (twins : List.Forall₂ (Twin first second) lefts rights) :
    Option.Rel (List.Forall₂ (Twin first second)) (collectLits neutral absorbing found lefts)
      (collectLits neutralRight absorbingRight foundRight rights) := by
  induction lefts generalizing rights found foundRight with
  | nil =>
      cases twins
      exact .some twinsFound
  | cons left lefts hypothesis =>
      cases twins with
      | cons head tail =>
          rw [collectLits, collectLits]
          refine rel_ite (or_congr (head.eq_iff twinAbsorbing) (head.neg.mem_iff twinsFound)) .none
            (rel_ite (or_congr (head.eq_iff twinNeutral) (head.mem_iff twinsFound))
              (hypothesis twinsFound tail) (hypothesis ?_ tail))
          exact List.rel_append twinsFound (.cons head .nil)

/-- Of twin operands both solvers make the same of a gate with many operands. -/
theorem twin_quantifier {neutral absorbing : Nat → Lit} {clauses : List Lit → Lit → List (List Lit)}
    (twinNeutral : Twin first second (neutral first.owner) (neutral second.owner))
    (twinAbsorbing : Twin first second (absorbing first.owner) (absorbing second.owner))
    (made : ∀ {lefts rights : List Lit} {output outputRight : Lit},
      List.Forall₂ (Twin first second) lefts rights → Twin first second output outputRight →
        List.Forall₂ (List.Forall₂ (Twin first second)) (clauses lefts output)
          (clauses rights outputRight)) :
    (pairing first second).Variadic (fun _ => Twin first second)
      (fun literals => do
        checkAll literals
        quantifier neutral absorbing clauses literals (← get))
      (fun literals => do
        checkAll literals
        quantifier neutral absorbing clauses literals (← get)) := by
  intro states lefts rights twins
  refine (twin_checkAll twins).bind fun middle _ _ valid _ _ => ?_
  obtain ⟨_, rfl, rfl⟩ := valid
  have found := twin_collectLits twinNeutral twinAbsorbing .nil twins
  refine .getBind ?_
  unfold quantifier
  rw [distinctLits?_eq, distinctLits?_eq]
  change Option.Rel _ (collectLits (neutral middle.1.owner) (absorbing middle.1.owner) [] lefts)
    (collectLits (neutral middle.2.owner) (absorbing middle.2.owner) [] rights) at found
  generalize collectLits _ _ [] lefts = one at found ⊢
  generalize collectLits _ _ [] rights = two at found ⊢
  cases found with
  | none => exact .pure twinAbsorbing
  | some distinct =>
      cases distinct with
      | nil => exact .pure twinNeutral
      | cons head tail =>
          cases tail with
          | nil => exact .pure head
          | cons next rest =>
              exact twin_define fun output outputRight twinOutput =>
                made (.cons head (.cons next rest)) twinOutput

/-- Conjunctions of many twins are twins. -/
theorem twin_all : (pairing first second).Variadic (fun _ => Twin first second) all all := by
  refine @twin_quantifier first second top bot allClauses (.top first second) (.bot first second)
    fun {lefts rights output outputRight} twins twinOutput => ?_
  refine List.rel_append ?_ (.cons (List.rel_append (twins_neg twins) (.cons twinOutput .nil)) .nil)
  rw [List.forall₂_map_left_iff, List.forall₂_map_right_iff]
  exact twins.imp fun _ _ twin => .cons twin (.cons twinOutput.neg .nil)

/-- Disjunctions of many twins are twins. -/
theorem twin_any : (pairing first second).Variadic (fun _ => Twin first second) any any := by
  refine @twin_quantifier first second bot top anyClauses (.bot first second) (.top first second)
    fun {lefts rights output outputRight} twins twinOutput => ?_
  refine List.rel_append ?_ (.cons (List.rel_append twins (.cons twinOutput.neg .nil)) .nil)
  rw [List.forall₂_map_left_iff, List.forall₂_map_right_iff]
  exact twins.imp fun _ _ twin => .cons twin.neg (.cons twinOutput .nil)

/-! ## Announcing, searching and decoding -/

theorem pairing_note (event : Event) (states : Solver × Solver)
    (valid : (pairing first second).Valid states) :
    (pairing first second).Valid
        (HasJournal.note event states.1, HasJournal.note event states.2) ∧
      (pairing first second).Reaches states
        (HasJournal.note event states.1, HasJournal.note event states.2) := by
  obtain ⟨inStep, isLeft, isRight⟩ := valid
  exact ⟨⟨⟨inStep.numVars_eq, inStep.clauses_eq, inStep.decision_eq, inStep.answers_eq⟩, isLeft,
    isRight⟩, ⟨0, 0, 0⟩, ⟨rfl, rfl, rfl⟩, ⟨rfl, rfl, rfl⟩⟩

/-- Both solvers come to the same decision. -/
theorem twin_solve : (pairing first second).Corresponds states solve solve fun _ => Eq := by
  refine .of_valid fun ⟨inStep, isLeft, isRight⟩ => ?_
  have sameFormula : states.1.backend.formula = states.2.backend.formula := by
    unfold Backend.formula
    rw [inStep.clauses_eq]
  have sameVerdict := inStep.answers_eq states.1.backend.rounds states.2.backend.rounds
    states.1.backend.numVars states.1.backend.formula
  have decidesRight {verdict : Verdict} (decided : states.1.backend.engine.decide
      states.1.backend.rounds states.1.backend.numVars states.1.backend.formula = verdict) :
      states.2.backend.engine.decide states.2.backend.rounds states.2.backend.numVars
        states.2.backend.formula = verdict := by
    rw [← inStep.numVars_eq, ← sameFormula, ← sameVerdict, decided]
  have searched (decision : Decision) :
      (pairing first second).Valid (states.1.searched decision, states.2.searched decision) ∧
        (pairing first second).Reaches states
          (states.1.searched decision, states.2.searched decision) :=
    ⟨⟨⟨inStep.numVars_eq, inStep.clauses_eq, rfl, inStep.answers_eq⟩, isLeft, isRight⟩,
      ⟨0, 0, 1⟩, ⟨rfl, rfl, rfl⟩, ⟨rfl, rfl, rfl⟩⟩
  cases decided : states.1.backend.engine.decide states.1.backend.rounds states.1.backend.numVars
      states.1.backend.formula with
  | satisfiable model =>
      obtain ⟨valid, reached⟩ := searched (.model model)
      exact .of_runs (runOn_solve_of_satisfiable decided)
        (runOn_solve_of_satisfiable (decidesRight decided)) (fun _ => valid) reached (.ok rfl)
  | unsatisfiable =>
      obtain ⟨valid, reached⟩ := searched .unsatisfiable
      exact .of_runs (runOn_solve_of_unsatisfiable decided)
        (runOn_solve_of_unsatisfiable (decidesRight decided)) (fun _ => valid) reached (.ok rfl)
  | undecided =>
      obtain ⟨journal, ran⟩ := runOn_solve_of_undecided decided
      obtain ⟨journalRight, ranRight⟩ := runOn_solve_of_undecided (decidesRight decided)
      refine @Corresponds.of_runs _ _ _ _ _ _ _ _ _ _ _ (_, _) ran ranRight (fun _ => ?_) ?_
        (.error _)
      · exact ⟨⟨inStep.numVars_eq, inStep.clauses_eq, rfl, inStep.answers_eq⟩, isLeft, isRight⟩
      · exact ⟨⟨0, 0, 1⟩, ⟨rfl, rfl, rfl⟩, ⟨rfl, rfl, rfl⟩⟩

/-- A value is looked up with the same outcome. -/
theorem twin_modelValue (code : Whole) :
    (pairing first second).Corresponds states (onBackend (Backend.modelValue code))
      (onBackend (Backend.modelValue code)) fun _ => Eq := by
  refine .of_valid fun ⟨inStep, _, _⟩ => ?_
  have ran := runOn_onBackend (Backend.modelValue code) states.1
  have ranRight := runOn_onBackend (Backend.modelValue code) states.2
  have reached := (pairing first second).reaches_refl states
  by_cases isSatisfiable : states.1.backend.status = some true
  · obtain ⟨model, isModel⟩ := Backend.exists_model_of_status isSatisfiable
    rw [Backend.runOn_modelValue isModel, inStep.numVars_eq] at ran
    rw [Backend.runOn_modelValue (inStep.decision_eq ▸ isModel)] at ranRight
    refine .of_runs ran ranRight id reached ?_
    split
    · exact .ok rfl
    · exact .error _
  · have notRight : states.2.backend.status ≠ some true := by
      unfold Backend.status
      rw [← inStep.decision_eq]
      exact isSatisfiable
    rw [Backend.runOn_modelValue_of_no_model isSatisfiable] at ran
    rw [Backend.runOn_modelValue_of_no_model notRight] at ranRight
    exact .of_runs ran ranRight id reached (.error _)

/-- Twins are decoded to the same value, or both find no model. -/
theorem twin_decode (twin : Twin first second left right) :
    (pairing first second).Corresponds states (decode left) (decode right) fun _ => Eq := by
  refine (twin_check twin).bind fun middle _ _ ⟨inStep, _, _⟩ _ _ => .getBind ?_
  have sameStatus : middle.1.backend.status = middle.2.backend.status := by
    unfold Backend.status
    rw [inStep.decision_eq]
  rw [sameStatus, twin.1]
  split
  · exact twin_modelValue _
  · exact .throw _

theorem twin_decodeTensor {tensor other : Tensor Lit}
    (twins : Tensor.Related (Twin first second) tensor other) :
    (pairing first second).Corresponds states (decodeTensor tensor) (decodeTensor other)
      fun _ => Eq := by
  have stable : (pairing first second).Stable fun _ => @Eq Bool := fun _ _ _ _ _ same => same
  refine (Corresponds.mapM stable_twin stable (fun _ _ _ => twin_decode) twins).weaken
    fun _ one two _ related => ?_
  refine Tensor.ext_toList related.shape_eq ?_
  have elements := related.elements
  rwa [List.forall₂_eq_eq_eq] at elements

/-! ## Expressions -/

/-- The gates of two solvers in step match. -/
theorem matches_pairing (first second : Era) :
    Matches (pairing first second) (fun _ => Twin first second) first.owner second.owner where
  keeps := pairing_note
  stable := stable_twin
  code_eq := And.left
  bot := fun _ _ => .bot first second
  top := fun _ _ => .top first second
  bot_iff := fun twin => twin.eq_iff (.bot first second)
  top_iff := fun twin => twin.eq_iff (.top first second)
  check := fun _ _ _ => twin_check
  neg := twin_neg
  conj := twin_conj
  disj := twin_disj
  xor := twin_xor
  all := twin_all
  any := twin_any

end TensorLogic.Solver
