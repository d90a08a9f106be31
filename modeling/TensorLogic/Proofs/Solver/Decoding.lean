/-
Module: TensorLogic.Proofs.Solver.Decoding
Purpose: When literals can be decoded, and that all values that are decoded between two changes of the
  formula come from one model of it.
Main exports: Solver.Moment.Quiet, Solver.Found, Solver.Ran.decision_iff, Solver.Found.keeps_model,
  Solver.Ran.decodes_one_model
-/
import TensorLogic.Proofs.Sat.Engine
import TensorLogic.Proofs.Solver.Encoding
import TensorLogic.Proofs.Solver.History

namespace TensorLogic.Solver

/-- A call that neither clears the solver nor searches for a model, and by which no clause reaches the
back-end. -/
structure Moment.Quiet [Platform] (moment : Moment) : Prop where
  notClear : moment.call.isClear = false
  notSolve : moment.call.isSolve = false
  numClauses_eq : moment.after.backend.numClauses = moment.before.backend.numClauses

/-- The last search since the solver was last cleared found a model, and only quiet calls were made since.
The search was made on the solver `asked`, and the calls after it are `since`. -/
structure Found [Platform] (history since : List Moment) (asked : Solver) : Prop where
  split : ∃ earlier, history = since ++ ⟨.solve, asked⟩ :: earlier
  satisfiable : (solve.runOn asked).1 = .ok true
  quiet : ∀ moment ∈ since, moment.Quiet

section

variable [Platform] {owner : Nat} {backend : Backend} {history since : List Moment} {solver asked : Solver}

/-- A quiet call changes neither the formula nor what is known of it. -/
theorem Moment.Quiet.same {moment : Moment} (quiet : moment.Quiet) :
    moment.after.backend.decision = moment.before.backend.decision ∧
      moment.after.backend.formula = moment.before.backend.formula := by
  rcases moment.call.cases with isClear | isSolve | ⟨_, _, builds⟩
  · have notClear := quiet.notClear
    rw [isClear] at notClear
    cases notClear
  · have notSolve := quiet.notSolve
    rw [isSolve] at notSolve
    cases notSolve
  · obtain ⟨more, built⟩ := exists_built (builds moment.before)
    have counted := built.numClauses_eq
    have sameNumber := quiet.numClauses_eq
    unfold Moment.after at sameNumber ⊢
    obtain rfl : more = [] := List.length_eq_zero_iff.1 (by omega)
    refine ⟨built.decision_eq, ?_⟩
    unfold Backend.formula
    rw [built.clauses_eq, List.map_nil, List.append_nil]

namespace Found

/-- A quiet call after a model was found leaves it found. -/
theorem cons {moment : Moment} (found : Found history since asked) (quiet : moment.Quiet) :
    Found (moment :: history) (moment :: since) asked where
  split := by
    obtain ⟨earlier, isHistory⟩ := found.split
    exact ⟨earlier, by rw [isHistory, List.cons_append]⟩
  satisfiable := found.satisfiable
  quiet := List.forall_mem_cons.2 ⟨quiet, found.quiet⟩

/-- The model that was found is kept, with the formula, in all states since. -/
theorem keeps_model (found : Found history since asked) (ran : Ran owner backend history solver) :
    ∃ model, asked.backend.engine.decide asked.backend.rounds asked.backend.numVars
        asked.backend.formula = .satisfiable model ∧
      ∀ state ∈ solver :: since.map Moment.before,
        state.backend.decision = some (.model model) ∧
          state.backend.formula = asked.backend.formula := by
  obtain ⟨⟨earlier, rfl⟩, satisfiable, quiet⟩ := found
  induction since generalizing solver with
  | nil =>
      obtain ⟨_, isAfter⟩ := ran.of_cons
      have isSolver : solver = (solve.runOn asked).2 := isAfter.trans (Call.state_solve asked)
      obtain ⟨searches, ⟨_, model, decided, isModel⟩ | ⟨unsatisfiable, _⟩⟩ := searches_solve asked
      · refine ⟨model, decided, fun state inside => ?_⟩
        obtain rfl := List.mem_singleton.1 inside
        rw [isSolver]
        exact ⟨isModel, congrArg (fun clauses => clauses.toList.map WrittenClause.literals)
          searches.clauses_eq⟩
      · exact absurd satisfiable unsatisfiable
  | cons moment since hypothesis =>
      obtain ⟨ranBefore, isAfter⟩ := ran.of_cons
      obtain ⟨model, decided, kept⟩ := hypothesis (fun other inside =>
        quiet other (List.mem_cons_of_mem _ inside)) ranBefore
      obtain ⟨sameDecision, sameFormula⟩ := (quiet moment List.mem_cons_self).same
      have before := kept moment.before List.mem_cons_self
      refine ⟨model, decided, List.forall_mem_cons.2 ⟨?_, kept⟩⟩
      rw [isAfter, sameDecision, sameFormula]
      exact before

end Found

/-- A model is known exactly if it was found by the last search since the solver was last cleared and no
clause has reached the back-end since. -/
theorem Ran.decision_iff (ran : Ran owner backend history solver) :
    (∃ model, solver.backend.decision = some (.model model)) ↔
      ∃ since asked, Found history since asked := by
  constructor
  · refine Ran.induct (fun history solver =>
      (∃ model, solver.backend.decision = some (.model model)) →
        ∃ since asked, Found history since asked) ?_ ?_ ?_ ?_ ran
    · rintro ⟨_, ⟨⟩⟩
    · rintro _ _ _ _ ⟨_, ⟨⟩⟩
    · rintro history solver _ _ ⟨model, isModel⟩
      obtain ⟨_, ⟨satisfiable, _⟩ | ⟨_, noModel⟩⟩ := searches_solve solver
      · exact ⟨[], solver, ⟨history, rfl⟩, satisfiable, fun _ impossible => nomatch impossible⟩
      · exact absurd isModel (noModel model)
    · rintro history solver call more notClear notSolve built _ hypothesis ⟨model, isModel⟩
      have lost := built.decision_eq
      by_cases unchanged : more = []
      · rw [if_pos unchanged] at lost
        obtain ⟨since, asked, found⟩ := hypothesis ⟨model, lost.symm.trans isModel⟩
        refine ⟨_, asked, found.cons ⟨notClear, notSolve, ?_⟩⟩
        exact built.numClauses_eq.trans (by rw [unchanged]; rfl)
      · rw [if_neg unchanged, isModel] at lost
        cases lost
  · rintro ⟨since, asked, found⟩
    obtain ⟨model, _, kept⟩ := found.keeps_model ran
    exact ⟨model, (kept solver List.mem_cons_self).1⟩

/-- The states since the last search are states that the solver can be in. -/
theorem Found.reachable (found : Found history since asked)
    (ran : Ran owner backend history solver) :
    ∀ state ∈ solver :: since.map Moment.before, Reachable owner backend state := by
  obtain ⟨earlier, isHistory⟩ := found.split
  refine List.forall_mem_cons.2 ⟨ran.reachable, fun state inside => ?_⟩
  obtain ⟨moment, isMoment, rfl⟩ := List.mem_map.1 inside
  exact ran.reachable_before moment (isHistory ▸ List.mem_append_left _ isMoment)

/-- With a sound engine, the model that was found satisfies the formula in all states since, and literals
are decoded to their values in it. -/
theorem Found.decodes (found : Found history since asked) (ran : Ran owner backend history solver)
    (sound : backend.engine.Sound) :
    ∃ model : Assignment, ∀ state ∈ solver :: since.map Moment.before,
      state.backend.formula.eval model = true ∧ ∀ literal, state.Live literal →
        (decode literal).runOn state = (.ok (model.value literal), state) := by
  obtain ⟨earlier, isHistory⟩ := found.split
  have reachable : Reachable owner backend asked :=
    ran.reachable_before ⟨.solve, asked⟩ (by rw [isHistory]; simp)
  obtain ⟨model, decided, kept⟩ := found.keeps_model ran
  rw [reachable.same_origin.2] at decided
  refine ⟨model, fun state inside => ⟨?_, fun literal live => ?_⟩⟩
  · rw [(kept state inside).2]
    exact sound reachable.wellFormed.isOver decided
  · exact runOn_decode (kept state inside).1 (found.reachable ran state inside).wellFormed live

/-- What was evaluated since the solver was last cleared is, in every model of the formula, worth what the
expression is worth on the values of the literals in it. -/
theorem Ran.worth_in_model (ran : Ran owner backend history solver) {model : Assignment}
    (holds : solver.backend.formula.eval model = true) {before : Solver} {names : Environment Lit}
    {site : Site} {expression : Expr} {context : Context} {kind : Kind} {result : Value Lit}
    (made : ⟨.evaluate names site expression, before⟩ ∈ sinceClear history)
    (typed : expression.HasKind context kind) (provides : before.Provides context names)
    (isResult : ((evaluate names site expression).runOn before).1 = .ok result) :
    kind.Contains solver.Holds result ∧
      expression.truthUnder names site model = .ok (result.read model.truthOf) := by
  have reachable := ran.reachable_before _ (List.takeWhile_subset _ made)
  have upholds := ran.upholds_sinceClear _ made
  unfold Moment.after at upholds
  rw [Call.state_evaluate] at upholds
  cases evaluates : (evaluate names site expression).runOn before with
  | mk outcome after =>
      rw [evaluates] at isResult upholds
      obtain rfl : outcome = .ok result := isResult
      obtain ⟨contains, worth⟩ :=
        truthUnder_of_evaluate reachable.wellFormed provides typed site evaluates
      obtain ⟨truth, isTruth, means⟩ := worth model
      refine ⟨contains.mono ?_, ?_⟩
      · rintro _ ⟨literal, rfl, live⟩
        exact ⟨literal, rfl, live.of_upholds upholds⟩
      · rw [isTruth, means (Formula.eval_of_extended upholds.builds.keeps_clauses holds)]

/-- Decoding always reads one model of the formula.  After any run, a literal that the solver can use is
decoded exactly if the last search since the solver was last cleared found a model and no clause has
reached the back-end since, and decoding it fails otherwise, because of the state of the solver.  If the
engine is sound, all values that are decoded between such a search and the next change come from one
assignment.  It satisfies the formula in each of these states and gives the constants their values, a
literal and its negation opposite ones, and everything that was evaluated since the solver was last cleared
what the expression is worth on the values of the literals in it. -/
theorem Ran.decodes_one_model (ran : Ran owner backend history solver)
    (sound : backend.engine.Sound) :
    Fault.noDecoding.category = .state ∧
    (∀ literal, solver.Live literal →
      ((∃ value, ((decode literal).runOn solver).1 = .ok value) ↔
        ∃ since asked, Found history since asked) ∧
      ((¬∃ since asked, Found history since asked) →
        ((decode literal).runOn solver).1 = .error .noDecoding)) ∧
    ∀ since asked, Found history since asked → ∃ model : Assignment,
      (∀ state ∈ solver :: since.map Moment.before,
        state.backend.formula.eval model = true ∧ ∀ literal, state.Live literal →
          (decode literal).runOn state = (.ok (model.value literal), state) ∧
            (decode literal.neg).runOn state = (.ok !model.value literal, state)) ∧
      model.value (top owner) = true ∧ model.value (bot owner) = false ∧
      ∀ before names site expression context kind result,
        ⟨.evaluate names site expression, before⟩ ∈ sinceClear history →
          expression.HasKind context kind → before.Provides context names →
            ((evaluate names site expression).runOn before).1 = .ok result →
              kind.Contains solver.Holds result ∧
                expression.truthUnder names site model = .ok (result.read model.truthOf) := by
  have wellFormed := ran.reachable.wellFormed
  refine ⟨rfl, fun literal live => ?_, fun since asked found => ?_⟩
  · have fails : (¬∃ since asked, Found history since asked) →
        ((decode literal).runOn solver).1 = .error .noDecoding := by
      intro notFound
      rw [runOn_decode_of_no_model live.owns fun model isModel =>
        notFound (ran.decision_iff.1 ⟨model, isModel⟩)]
    refine ⟨⟨?_, fun isFound => ?_⟩, fails⟩
    · rintro ⟨value, decoded⟩
      by_contra notFound
      rw [fails notFound] at decoded
      cases decoded
    · obtain ⟨model, isModel⟩ := ran.decision_iff.2 isFound
      rw [runOn_decode isModel wellFormed live]
      exact ⟨_, rfl⟩
  · obtain ⟨model, decodes⟩ := found.decodes ran sound
    obtain ⟨holds, _⟩ := decodes solver List.mem_cons_self
    have isTop := wellFormed.top_holds holds
    refine ⟨model, fun state inside => ⟨(decodes state inside).1, fun literal live => ?_⟩,
      Assignment.value_top isTop owner, Assignment.value_bot isTop owner, ?_⟩
    · have reads := (decodes state inside).2
      have negated := (found.reachable ran state inside).wellFormed.value_neg live model
      exact ⟨reads literal live, negated ▸ reads literal.neg live.neg⟩
    · intro before names site expression context kind result made typed provides isResult
      exact ran.worth_in_model holds made typed provides isResult

end

attribute [local instance] Platform.usual in
/-- Once two variables and their conjunction are solved, all of them can be decoded, and so can a variable
that is allocated after that. -/
theorem decodes_one_model_conj :
    let names : Environment Lit := [("x", .elem ⟨.formula 0 1, 2⟩), ("y", .elem ⟨.formula 0 1, 3⟩)]
    let conjunction : Call := .evaluate names [] (.connective .conj (.ref "x") (.ref "y"))
    Engine.least.Sound ∧ ∃ history solver, Ran 0 { engine := .least } history solver ∧
      history.reverse.map Moment.call =
        [.newVariable, .newVariable, conjunction, .solve, .newVariable] ∧
      ∃ model : Assignment,
        ((decode ⟨.formula 0 1, 2⟩).runOn solver).1 = .ok (model 2) ∧
        ((decode ⟨.formula 0 1, 3⟩).runOn solver).1 = .ok (model 3) ∧
        ((decode ⟨.formula 0 1, 4⟩).runOn solver).1 = .ok (model 2 && model 3) ∧
        ((decode ⟨.formula 0 1, 5⟩).runOn solver).1 = .ok (model 5) := by
  intro names conjunction
  have sound : Engine.least.Sound := Engine.decides_least.sound
  let pair := (newVariable.runOn (newVariable.runOn (create 0 { engine := .least })).2).2
  obtain ⟨gated, isGated⟩ : ∃ gated, gated = (conjunction.run.runOn pair).2 := ⟨_, rfl⟩
  have ranPair : Ran 0 { engine := .least } _ pair :=
    (Ran.created.called .newVariable).called .newVariable
  have ranGated := ranPair.called conjunction
  rw [← isGated] at ranGated
  -- All variables may be true, so the search finds a model, whichever it is.
  have holds : gated.backend.formula.eval (fun _ => true) = true := by
    rw [isGated]
    decide +kernel
  have numbers : gated.owner = 0 ∧ gated.period = 1 ∧ gated.backend.numVars = 4 := by
    rw [isGated]
    decide +kernel
  obtain ⟨found, decided⟩ := Engine.decides_least.exists_model
    ranGated.reachable.wellFormed.isOver holds gated.backend.rounds
  have isEngine : gated.backend.engine = .least := ranGated.reachable.same_origin.2
  rw [← isEngine] at decided
  have solved := runOn_solve_of_satisfiable decided
  have ran := (ranGated.called .solve).called .newVariable
  have quiet : Moment.Quiet ⟨.newVariable, (Call.solve.run.runOn gated).2⟩ := ⟨rfl, rfl, rfl⟩
  obtain ⟨solver, isSolver⟩ : ∃ solver, solver = (gated.searched (.model found)).extended := ⟨_, rfl⟩
  have isAfter : (Call.newVariable.run.runOn (Call.solve.run.runOn gated).2).2 = solver := by
    rw [Call.state_solve, solved, isSolver]
    rfl
  have live : ∀ code : Int, 2 ≤ code.natAbs → code.natAbs ≤ 5 →
      solver.Live ⟨.formula 0 1, code⟩ := by
    intro code atLeast atMost
    rw [isSolver]
    refine Or.inr ⟨?_, atLeast, ?_⟩
    · exact (congrArg₂ Scope.formula numbers.1 numbers.2.1).symm
    · change code.natAbs ≤ gated.backend.numVars + 1
      rwa [numbers.2.2]
  rw [isAfter] at ran
  obtain ⟨_, _, decodes⟩ := ran.decodes_one_model sound
  obtain ⟨model, reads, _, _, worth⟩ := decodes [⟨.newVariable, _⟩] gated
    ⟨⟨_, rfl⟩, congrArg Prod.fst solved, List.forall_mem_singleton.2 quiet⟩
  have readsNow : ∀ code : Int, 2 ≤ code.natAbs → code.natAbs ≤ 5 →
      ((decode ⟨.formula 0 1, code⟩).runOn solver).1 = .ok (model.holds code) := by
    intro code atLeast atMost
    rw [((reads solver List.mem_cons_self).2 _ (live code atLeast atMost)).1]
    rfl
  have livePair : ∀ code : Int, 2 ≤ code.natAbs → code.natAbs ≤ 3 →
      pair.Live ⟨.formula 0 1, code⟩ := fun code atLeast atMost => Or.inr ⟨rfl, atLeast, atMost⟩
  have provides : pair.Provides [("x", .elem), ("y", .elem)] names :=
    ((provides_nil pair).cons (livePair 3 (by decide) (by decide)).contains "y").cons
      (livePair 2 (by decide) (by decide)).contains "x"
  have isConjunction : model 4 = (model 2 && model 3) := by
    obtain ⟨_, isTruth⟩ := worth pair names [] _ _ _ (.elem ⟨.formula 0 1, 4⟩)
      (.tail _ (.tail _ (.head _))) (.connective .conj (.ref rfl) (.ref rfl)) provides rfl
    have conjoined : (Expr.connective .conj (.ref "x") (.ref "y")).truthUnder names [] model =
        .ok (Truth.ofBool (model 2 && model 3)) := rfl
    rw [conjoined, Value.ofBool_eq] at isTruth
    exact (Scalar.bool.inj (Value.scalar.inj (Except.ok.inj isTruth)).2).symm
  refine ⟨sound, _, solver, ran, rfl, model, readsNow 2 (by decide) (by decide),
    readsNow 3 (by decide) (by decide), ?_, readsNow 5 (by decide) (by decide)⟩
  rw [← isConjunction]
  exact readsNow 4 (by decide) (by decide)

end TensorLogic.Solver
