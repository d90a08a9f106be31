/-
Module: TensorLogic.Proofs.Solver.Harmless
Purpose: However the evaluation of an expression ends, it leaves nothing but complete gates behind.
Main exports: Solver.Usable, Solver.conserving, Solver.conserves_evaluate, Solver.Unharmed,
  Solver.Ran.evaluation_harmless
-/
import TensorLogic.Proofs.Solver.Decoding
import TensorLogic.Proofs.Solver.Guard
import TensorLogic.Proofs.Solver.Uniform

namespace TensorLogic.Solver

open Bridge

variable {owner : Nat} {backend : Backend} {history : List Moment} {solver : Solver}

/-- A literal that the solver can use, or one that does not belong to its present formula and has some
property. -/
def Usable (Other : Lit → Prop) (solver : Solver) (literal : Lit) : Prop :=
  solver.Live literal ∨ ¬solver.Owns literal ∧ Other literal

theorem Usable.of_grows {Other : Lit → Prop} {before after : Solver} {literal : Lit}
    (usable : before.Usable Other literal) (grows : before.Grows after) :
    after.Usable Other literal := by
  refine usable.imp (·.of_grows grows) (And.imp_left fun foreign => ?_)
  unfold Owns
  rw [grows.owner_eq, grows.period_eq]
  exact foreign

/-! ## The same evaluation twice -/

/-- The same solver on both sides, the formula of which grows. -/
def conserving (owner : Nat) : Bridge Solver Solver where
  Valid := fun states => states.1 = states.2 ∧ states.1.WellFormed ∧ states.1.owner = owner
  Reaches := fun before after => before.1.Grows after.1
  reaches_refl := fun states => .refl states.1
  reaches_trans := .trans

/-- The same literal on both sides. -/
def SameUsable (Other : Lit → Prop) (states : Solver × Solver) (left right : Lit) : Prop :=
  left = right ∧ states.1.Usable Other left

variable {Other : Lit → Prop}

theorem eq_of_sameUsable {states : Solver × Solver} {lefts rights : List Lit}
    (same : List.Forall₂ (SameUsable Other states) lefts rights) :
    lefts = rights ∧ ∀ literal ∈ lefts, states.1.Usable Other literal := by
  induction same with
  | nil => exact ⟨rfl, fun _ impossible => nomatch impossible⟩
  | cons head _ hypothesis =>
      obtain ⟨rfl, usable⟩ := head
      obtain ⟨rfl, rest⟩ := hypothesis
      exact ⟨rfl, List.forall_mem_cons.2 ⟨usable, rest⟩⟩

/-- A gate over literals each of which is of use or foreign is either complete or not there at all. -/
theorem conserves_gate {operands : List Lit} {action : Act Solver Lit} (isGate : IsGate operands action)
    {states : Solver × Solver} (usable : ∀ literal ∈ operands, states.1.Usable Other literal) :
    (conserving owner).Corresponds states action action (SameUsable Other) := by
  obtain ⟨solver, twin⟩ := states
  refine .of_valid fun ⟨same, wellFormed, isOwner⟩ => ?_
  obtain rfl : solver = twin := same
  by_cases foreign : ∃ literal ∈ operands, ¬solver.Owns literal
  · obtain ⟨literal, _, _, refused⟩ := isGate.guarded solver foreign
    exact .of_runs refused refused id (Grows.refl solver) (.error _)
  · have live : ∀ literal ∈ operands, solver.Live literal := fun literal inside =>
      (usable literal inside).resolve_right fun ⟨isForeign, _⟩ => foreign ⟨literal, inside, isForeign⟩
    obtain ⟨result, after, ran, wellFormedAfter, grows, liveAfter⟩ :=
      isGate.computes solver wellFormed live
    have validAfter : (conserving owner).Valid (after, after) :=
      ⟨rfl, wellFormedAfter, grows.owner_eq.trans isOwner⟩
    exact .of_runs ran ran (fun _ => validAfter) grows (.ok ⟨rfl, Or.inl liveAfter⟩)

/-- The checks of a literal that is of use or foreign change nothing. -/
theorem conserves_check {states : Solver × Solver} {literal : Lit} :
    (conserving owner).Corresponds states (check literal) (check literal) fun _ _ _ => True := by
  obtain ⟨solver, twin⟩ := states
  refine .of_valid fun ⟨same, _, _⟩ => ?_
  obtain rfl : solver = twin := same
  by_cases owns : solver.Owns literal
  · exact .of_runs (runOn_check owns) (runOn_check owns) id (Grows.refl solver) (.ok trivial)
  · have refused := runOn_check_refused owns
    exact .of_runs refused refused id (Grows.refl solver) (.error _)

theorem matches_conserving (Other : Lit → Prop) (owner : Nat) :
    Matches (conserving owner) (SameUsable Other) owner owner where
  keeps := by
    rintro event ⟨solver, twin⟩ ⟨same, wellFormed, isOwner⟩
    obtain rfl : solver = twin := same
    exact ⟨⟨rfl, ⟨wellFormed.isOver, wellFormed.asserts_top⟩, isOwner⟩, grows_note event solver⟩
  stable := fun _ _ _ _ grows ⟨same, usable⟩ => ⟨same, usable.of_grows grows⟩
  code_eq := fun ⟨same, _⟩ => congrArg Lit.code same
  bot := fun states ⟨_, _, isOwner⟩ => ⟨rfl, Or.inl (isOwner ▸ live_bot states.1)⟩
  top := fun states ⟨_, _, isOwner⟩ => ⟨rfl, Or.inl (isOwner ▸ live_top states.1)⟩
  bot_iff := fun ⟨same, _⟩ => same ▸ Iff.rfl
  top_iff := fun ⟨same, _⟩ => same ▸ Iff.rfl
  check := by
    rintro states left _ ⟨rfl, _⟩
    exact conserves_check
  neg := by
    rintro states left _ ⟨rfl, usable⟩
    exact conserves_gate (isGate_neg left) (List.forall_mem_singleton.2 usable)
  conj := by
    rintro states left _ right _ ⟨rfl, usable⟩ ⟨rfl, further⟩
    exact conserves_gate (isGate_conj left right)
      (List.forall_mem_cons.2 ⟨usable, List.forall_mem_singleton.2 further⟩)
  disj := by
    rintro states left _ right _ ⟨rfl, usable⟩ ⟨rfl, further⟩
    exact conserves_gate (isGate_disj left right)
      (List.forall_mem_cons.2 ⟨usable, List.forall_mem_singleton.2 further⟩)
  xor := by
    rintro states left _ right _ ⟨rfl, usable⟩ ⟨rfl, further⟩
    exact conserves_gate (isGate_xor left right)
      (List.forall_mem_cons.2 ⟨usable, List.forall_mem_singleton.2 further⟩)
  all := by
    intro states lefts rights same
    obtain ⟨rfl, usable⟩ := eq_of_sameUsable same
    exact conserves_gate (isGate_all lefts) usable
  any := by
    intro states lefts rights same
    obtain ⟨rfl, usable⟩ := eq_of_sameUsable same
    exact conserves_gate (isGate_any lefts) usable

/-- Every literal in a named value has some property. -/
def NamesOnly (Allowed : Lit → Prop) (names : Environment Lit) : Prop :=
  ∀ name value, names.lookup name = some value → ∀ literal ∈ value.elements, Allowed literal

theorem namesOnly_of_forall {Allowed : Lit → Prop} {names : Environment Lit}
    (each : ∀ entry ∈ names, ∀ literal ∈ entry.2.elements, Allowed literal) :
    NamesOnly Allowed names := by
  intro name value found literal inside
  obtain ⟨before, after, rfl, _⟩ := List.lookup_eq_some_iff.1 found
  exact each (name, value) (List.mem_append_right _ List.mem_cons_self) literal inside

theorem NamesOnly.alike {states : Solver × Solver} {names : Environment Lit}
    (usable : NamesOnly (states.1.Usable Other) names) :
    Environment.Alike (SameUsable Other states) names names := by
  intro name
  cases found : names.lookup name with
  | none => exact .none
  | some value => exact .some (Value.alike_self value (usable name value found))

/-- Whatever the expression, and however its evaluation ends: the formula grows by complete gates, and the
literals in the result are of use, or foreign ones that were handed in. -/
theorem conserves_evaluate [Platform] (wellFormed : solver.WellFormed) {names : Environment Lit}
    (usable : NamesOnly (solver.Usable Other) names) (site : Site) (expression : Expr) :
    let ran := (evaluate names site expression).runOn solver
    ran.2.WellFormed ∧ solver.Grows ran.2 ∧
      ∀ result, ran.1 = .ok result → ∀ literal ∈ result.elements, ran.2.Usable Other literal := by
  have alike : Environment.Alike (SameUsable Other (solver, solver)) names names := usable.alike
  obtain ⟨⟨_, wellFormedAfter, _⟩, grows, same⟩ :=
    (matches_conserving Other solver.owner).evaluate
      (fun states ⟨same, _, isOwner⟩ => ⟨isOwner, same ▸ isOwner⟩) alike site expression
      ⟨rfl, wellFormed, rfl⟩
  refine ⟨wellFormedAfter, grows, fun result isResult => ?_⟩
  dsimp only at same
  rw [isResult] at same
  cases same with
  | ok related => exact (Value.eq_of_alike related).2

/-! ## What is left behind -/

/-- A solver after something was built on it that may have failed, compared with the solver before. -/
structure Unharmed [Platform] (history : List Moment) (before after : Solver) : Prop where
  /-- The clauses are still there, and the new ones come after them. -/
  clauses_prefix : before.backend.clauses.toList <+: after.backend.clauses.toList
  /-- Each model of the old formula extends to exactly one model of the new one. -/
  extends_uniquely : before.backend.numVars ≤ after.backend.numVars ∧
    ∀ model : Assignment, before.backend.formula.eval model = true →
      ∃ extension : Assignment, model.AgreeUpTo before.backend.numVars extension ∧
        after.backend.formula.eval extension = true ∧
        ∀ rival : Assignment, model.AgreeUpTo before.backend.numVars rival →
          after.backend.formula.eval rival = true →
            extension.AgreeUpTo after.backend.numVars rival
  /-- Each model of the new formula is one of the old formula, whatever the new variables are. -/
  restricts : ∀ model other : Assignment, after.backend.formula.eval model = true →
    model.AgreeUpTo before.backend.numVars other → before.backend.formula.eval other = true
  /-- Literals stay of use. -/
  live : ∀ literal, before.Live literal → after.Live literal
  /-- Clauses of them are accepted. -/
  accepts : ∀ literals, (∀ literal ∈ literals, before.Live literal) →
    ((addClause literals).runOn after).1 = .ok ()
  /-- They are worth what they were, whatever the new variables are. -/
  worth : ∀ literal, before.Live literal → ∀ model extension : Assignment,
    model.AgreeUpTo before.backend.numVars extension →
      extension.value literal = model.value literal
  /-- What was evaluated before is in every model of the new formula still worth what its expression is
  worth on the values of the literals in it. -/
  meaning : ∀ model : Assignment, after.backend.formula.eval model = true →
    ∀ (state : Solver) (names : Environment Lit) (site : Site) (expression : Expr)
      (context : Context) (kind : Kind) (result : Value Lit),
      ⟨.evaluate names site expression, state⟩ ∈ sinceClear history →
        expression.HasKind context kind → state.Provides context names →
          ((evaluate names site expression).runOn state).1 = .ok result →
            expression.truthUnder names site model = .ok (result.read model.truthOf)

/-- In every state that a solver can be in, the evaluation of an expression does no harm, whether it comes
to a result or fails at any point.  Literals in the named values may be foreign or out of date, as long as
none was made up. -/
theorem Ran.evaluation_harmless [Platform] (ran : Ran owner backend history solver) (names : Environment Lit)
    (site : Site) (expression : Expr)
    (genuine : NamesOnly (fun literal => solver.Owns literal → solver.Live literal) names) :
    Unharmed history solver ((evaluate names site expression).runOn solver).2 := by
  have wellFormed := ran.reachable.wellFormed
  have usable : NamesOnly (solver.Usable fun _ => True) names := by
    intro name value found literal inside
    by_cases owns : solver.Owns literal
    · exact Or.inl (genuine name value found literal inside owns)
    · exact Or.inr ⟨owns, trivial⟩
  obtain ⟨wellFormedAfter, grows, _⟩ := conserves_evaluate wellFormed usable site expression
  obtain ⟨more, built⟩ := exists_built (keeps_evaluate names site expression solver)
  refine ⟨?_, ⟨grows.numVars_le, grows.extends_uniquely⟩, ?_, fun _ live => live.of_grows grows, ?_, ?_,
    ?_⟩
  · rw [built.clauses_eq]
    exact List.prefix_append _ _
  · intro model other holds agree
    rw [← Formula.eval_congr wellFormed.isOver agree]
    exact grows.keeps_eval holds
  · intro literals live
    rw [runOn_addClause wellFormedAfter fun literal inside => (live literal inside).of_grows grows]
  · intro literal live model extension agree
    exact (wellFormed.value_congr live agree).symm
  · intro model holds state names' site' expression' context kind result made typed provides isResult
    have called := ran.called (.evaluate names site expression)
    rw [Call.state_evaluate] at called
    have stillMade : ⟨.evaluate names' site' expression', state⟩ ∈
        sinceClear (⟨.evaluate names site expression, solver⟩ :: history) :=
      List.mem_cons_of_mem _ made
    exact (called.worth_in_model holds stillMade typed provides isResult).2

attribute [local instance] Platform.usual in
/-- The exclusive disjunction of two variables and a literal from before the solver was cleared fails after
a gate for the two variables was made, which stays. -/
theorem evaluation_harmless_stale :
    let fresh (code : Int) : Value Lit := .elem ⟨.formula 0 2, code⟩
    let names : Environment Lit :=
      [("x", fresh 2), ("y", fresh 3), ("stale", .elem ⟨.formula 0 1, 2⟩)]
    let parity : Expr := .aggregate .parity (.list [.ref "x", .ref "y", .ref "stale"])
    ∃ history solver, Ran 0 { engine := .least } history solver ∧
      history.reverse.map Moment.call = [.newVariable, .clear, .newVariable, .newVariable] ∧
      ((evaluate names [] parity).runOn solver).1 = .error (.foreignLiteral 2) ∧
      ((evaluate names [] parity).runOn solver).2.counters = [4, 5, 4, 4, 0] ∧
      Unharmed history solver ((evaluate names [] parity).runOn solver).2 := by
  intro fresh names parity
  have ran : Ran 0 { engine := .least } _ _ :=
    (((Ran.created.called .newVariable).called .clear).called .newVariable).called .newVariable
  refine ⟨_, _, ran, rfl, rfl, by decide +kernel,
    ran.evaluation_harmless names [] parity (namesOnly_of_forall ?_)⟩
  refine List.forall_mem_cons.2 ⟨?_, List.forall_mem_cons.2 ⟨?_, List.forall_mem_singleton.2 ?_⟩⟩
  · exact List.forall_mem_singleton.2 fun _ => Or.inr ⟨rfl, by decide +kernel, by decide +kernel⟩
  · exact List.forall_mem_singleton.2 fun _ => Or.inr ⟨rfl, by decide +kernel, by decide +kernel⟩
  · exact List.forall_mem_singleton.2 fun owns => absurd owns (by decide +kernel)

end TensorLogic.Solver
