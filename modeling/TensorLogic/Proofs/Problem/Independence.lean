/-
Module: TensorLogic.Proofs.Problem.Independence
Purpose: Solving a problem comes to the same on every solver, whatever the solver was used for before.
Main exports: Problem.compile, Problem.twin_compile, Problem.twin_enumerate, Problem.EndsAlike,
  Problem.independent_of_past
-/
import TensorLogic.Proofs.Expr.Truth
import TensorLogic.Proofs.Problem.Blocking
import TensorLogic.Proofs.Solver.Twin

namespace TensorLogic

/-- The answers of an engine are a function of the question, however many were asked before. -/
def Engine.AnswersBy (engine : Engine) (answers : Nat → Formula → Verdict) : Prop :=
  ∀ round numVars formula, engine.decide round numVars formula = answers numVars formula

namespace Problem

open Solver Bridge

variable {problem : Problem} {first second : Era} {states : Solver × Solver}
  {unknowns others : List (Tensor Lit)}

/-! ## The predicate over a cleared solver -/

/-- What is done once the solver is cleared: to allocate the variables of all tensors and assert that the
predicate holds. -/
def compile [Platform] (problem : Problem) : Act Solver (List (Tensor Lit)) := do
  let unknowns ← problem.shapes.mapM Solver.variableTensor
  let owner := (← get).owner
  let value ← problem.compute (Solver.algebra owner) (unknowns.map fun tensor =>
    tensor.map Value.elem)
  Solver.assertAny [value]
  pure unknowns

/-- Encoding begins with a clearing. -/
theorem runOn_encode_bind [Platform] {α : Type} (next : List (Tensor Lit) → Act Solver α) (solver : Solver) :
    (problem.encode >>= next).runOn solver = (problem.compile >>= next).runOn solver.cleared := by
  have clears : problem.encode.runOn solver = problem.compile.runOn solver.cleared :=
    Act.runOn_bind_ok (Solver.runOn_clear solver) fun _ => problem.compile
  rw [Act.runOn_bind, Act.runOn_bind, clears]

/-- Tensors are named by their places, on both sides alike. -/
theorem alike_environment {β γ : Type} {Twin : β → γ → Prop} {lefts : List (Tensor (Value β))}
    {rights : List (Tensor (Value γ))}
    (related : List.Forall₂ (Tensor.Related (Value.Alike Twin)) lefts rights) :
    Environment.Alike Twin (environment lefts) (environment rights) := by
  unfold environment
  generalize 0 = start
  induction related generalizing start with
  | nil => exact fun _ => .none
  | cons head _ hypothesis =>
      exact (hypothesis (start + 1)).cons (toString start) (.ofTensor head)

/-- Tensors of twin literals, as values. -/
theorem alike_unknowns (twins : List.Forall₂ (Tensor.Related (Twin first second)) unknowns others) :
    List.Forall₂ (Tensor.Related (Value.Alike (Twin first second)))
      (unknowns.map fun tensor => tensor.map Value.elem)
      (others.map fun tensor => tensor.map Value.elem) := by
  rw [List.forall₂_map_left_iff, List.forall₂_map_right_iff]
  refine twins.imp fun tensor other related => ⟨related.shape_eq, ?_⟩
  rw [Tensor.toList_map, Tensor.toList_map, List.forall₂_map_left_iff, List.forall₂_map_right_iff]
  exact related.elements.imp fun _ _ => .elem

/-- Two solvers allocate twins for a shape, or refuse it for the same reason. -/
theorem twin_variableTensor [Platform] (shape : Shape) :
    (pairing first second).Corresponds states (Solver.variableTensor shape)
      (Solver.variableTensor shape) fun _ => Tensor.Related (Twin first second) := by
  have stable : (pairing first second).Stable fun _ => @Eq Index := fun _ _ _ _ _ same => same
  have same : List.Forall₂ Eq shape.indices shape.indices :=
    List.forall₂_same.2 fun _ _ => rfl
  refine .liftBindSame _ fun _ => ?_
  refine (Corresponds.visit stable stable_twin (fun _ _ _ _ => twin_newVariable) same).bind
    fun middle lefts rights _ _ twins => ?_
  exact .pure ⟨rfl, twins⟩

/-- Over two cleared solvers the predicate is compiled alike, or fails alike. -/
theorem twin_compile [Platform] (problem : Problem) :
    (pairing first second).Corresponds states problem.compile problem.compile
      fun _ => List.Forall₂ (Tensor.Related (Twin first second)) := by
  have stable : (pairing first second).Stable fun _ => @Eq Shape := fun _ _ _ _ _ same => same
  have stableTensor : (pairing first second).Stable fun _ => Tensor.Related (Twin first second) :=
    fun _ _ _ _ _ related => related
  have same : List.Forall₂ Eq problem.shapes problem.shapes := List.forall₂_same.2 fun _ _ => rfl
  have allocates : (pairing first second).Corresponds states
      (problem.shapes.mapM Solver.variableTensor) (problem.shapes.mapM Solver.variableTensor)
      fun _ => List.Forall₂ (Tensor.Related (Twin first second)) := by
    refine .listMapM stable stableTensor (fun states shape other isSame => ?_) same
    subst isSame
    exact twin_variableTensor shape
  refine allocates.bind fun middle unknowns others valid _ twins => .getBind ?_
  obtain ⟨_, isLeft, isRight⟩ := valid
  have isOwner : middle.1.owner = first.owner := congrArg Era.owner isLeft
  have isOther : middle.2.owner = second.owner := congrArg Era.owner isRight
  have computes := Expr.transfers (matches_pairing first second).uniform problem.predicate [] middle
    _ _ (alike_environment (alike_unknowns twins))
  rw [isOwner, isOther]
  refine computes.bind fun next value other _ _ alike => ?_
  have asserts : (pairing first second).Corresponds next (Solver.assertAny [value])
      (Solver.assertAny [other]) fun _ _ _ => True :=
    ((matches_pairing first second).operands (.cons alike .nil)).bind
      fun _ _ _ _ _ literals => twin_addClause literals
  exact asserts.bind fun _ _ _ _ _ _ => .pure twins

/-! ## Reading and excluding solutions -/

/-- Whether tensors of truth values pass the check does not depend on the solver. -/
theorem twin_check_onTruth [Platform] (solution : Solution) :
    (pairing first second).Corresponds states (problem.check (onTruth solution))
      (problem.check (onTruth solution)) fun _ => Eq := by
  have uniform : Interpretation.Uniform (pairing first second) (fun _ => @Eq Empty)
      { algebra := Truth.algebra } { algebra := Truth.algebra } :=
    { keeps := pairing_note
      stable := fun _ _ _ _ _ same => same
      leaf := fun _ _ => .error _
      operations := Truth.uniform }
  have tensors : List.Forall₂ (Tensor.Related (Value.Alike (@Eq Empty))) (onTruth solution)
      (onTruth solution) :=
    forall₂_map_map fun tensor => .of_map tensor fun value => .scalar none (.bool value)
  have computes := Expr.transfers uniform problem.predicate [] states _ _ (alike_environment tensors)
  unfold check
  split
  · exact computes.bind fun _ _ _ _ _ alike => .pure alike.truth_eq
  · exact .throw _

/-- The same solution is read on both sides, or refused alike. -/
theorem twin_readSolution [Platform]
    (twins : List.Forall₂ (Tensor.Related (Twin first second)) unknowns others) :
    (pairing first second).Corresponds states (problem.readSolution unknowns)
      (problem.readSolution others) fun _ => Eq := by
  have stable : (pairing first second).Stable fun _ => Tensor.Related (Twin first second) :=
    fun _ _ _ _ _ related => related
  have stableResult : (pairing first second).Stable fun _ => @Eq (Tensor Bool) :=
    fun _ _ _ _ _ same => same
  refine (Corresponds.listMapM stable stableResult (fun _ _ _ => twin_decodeTensor) twins).bind
    fun middle solution other _ _ same => ?_
  rw [List.forall₂_eq_eq_eq] at same
  subst same
  refine (twin_check_onTruth solution).bind fun last holds other _ _ same => ?_
  subst same
  cases holds with
  | true => exact .pure rfl
  | false => exact .throw _

/-- The selected cells of twins are twins. -/
theorem twins_projection
    (twins : List.Forall₂ (Tensor.Related (Twin first second)) unknowns others) :
    List.Forall₂ (Twin first second) (problem.projection unknowns) (problem.projection others) := by
  obtain ⟨pairs, rfl, rfl⟩ := Tensor.Related.exists_pairs_list twins
  rw [projection_map, projection_map]
  exact forall₂_map_map Subtype.property

theorem twin_lift (value : Bool) :
    Twin first second (Solver.lift first.owner value) (Solver.lift second.owner value) := by
  cases value with
  | true => exact .top first second
  | false => exact .bot first second

/-- Twin literals are put together with the same values. -/
theorem twins_zip {lefts rights : List Lit} (twins : List.Forall₂ (Twin first second) lefts rights)
    (values : List Bool) :
    List.Forall₂ (fun left right => Twin first second left.1 right.1 ∧ left.2 = right.2)
      (lefts.zip values) (rights.zip values) := by
  induction twins generalizing values with
  | nil => exact .nil
  | cons head _ hypothesis =>
      cases values with
      | nil => exact .nil
      | cons value values => exact .cons ⟨head, rfl⟩ (hypothesis values)

/-- The clause against a solution has twin literals. -/
theorem twin_blocking (twins : List.Forall₂ (Tensor.Related (Twin first second)) unknowns others)
    (solution : Solution) :
    (pairing first second).Corresponds states (problem.blocking unknowns solution)
      (problem.blocking others solution) fun _ => List.Forall₂ (Twin first second) := by
  refine .of_valid fun ⟨_, isLeft, isRight⟩ => .getBind ?_
  have isOwner : states.1.owner = first.owner := congrArg Era.owner isLeft
  have isOther : states.2.owner = second.owner := congrArg Era.owner isRight
  have stable : (pairing first second).Stable fun _ (left right : Lit × Bool) =>
      Twin first second left.1 right.1 ∧ left.2 = right.2 := fun _ _ _ _ _ related => related
  rw [isOwner, isOther]
  refine .listMapM stable stable_twin (fun states left right related => ?_)
    (twins_zip (twins_projection twins) _)
  obtain ⟨literal, value⟩ := left
  obtain ⟨other, valueRight⟩ := right
  obtain ⟨twin, rfl⟩ := related
  exact twin_xor states _ _ _ _ (twin_lift value) twin

/-! ## Solving -/

theorem twin_announce (event : Event) :
    (pairing first second).Corresponds states (announce event) (announce event) fun _ _ _ => True :=
  .announce pairing_note event fun _ => trivial

/-- A round ends with a stop, or with the clause against its solution and all further rounds. -/
theorem twin_endRound {lefts rights : List Lit} (twins : List.Forall₂ (Twin first second) lefts rights)
    {next nextRight : Act Solver (List Solution)}
    (further : ∀ states, (pairing first second).Corresponds states next nextRight fun _ => Eq)
    (stops : Prop) [Decidable stops] (count : Nat) (found : List Solution) :
    (pairing first second).Corresponds states
      (if stops then do
        announce (.stopped count)
        pure found
      else do
        Solver.addClause lefts
        next)
      (if stops then do
        announce (.stopped count)
        pure found
      else do
        Solver.addClause rights
        nextRight)
      fun _ => Eq := by
  split
  · exact (twin_announce _).bind fun _ _ _ _ _ _ => .pure rfl
  · exact (twin_addClause twins).bind fun _ _ _ _ _ _ => further _

/-- The search for further solutions goes on alike. -/
theorem twin_enumerate [Platform] (limit : Int)
    (twins : List.Forall₂ (Tensor.Related (Twin first second)) unknowns others)
    (found : List Solution) (rounds : Nat) :
    (pairing first second).Corresponds states (problem.enumerate limit unknowns found rounds)
      (problem.enumerate limit others found rounds) fun _ => Eq := by
  induction rounds generalizing states found with
  | zero => exact .throw _
  | succ rounds hypothesis =>
      unfold enumerate
      refine twin_solve.bind fun middle satisfiable other _ _ same => ?_
      subst same
      cases satisfiable with
      | false => exact .pure rfl
      | true =>
          refine (twin_readSolution twins).bind fun read solution other _ _ same => ?_
          subst same
          refine (twin_blocking twins solution).bind fun blocked clause clauseRight _ _ literals => ?_
          dsimp only
          split
          · exact (twin_announce _).bind fun _ _ _ _ _ _ =>
              twin_endRound literals (fun _ => hypothesis _) _ _ _
          · exact twin_endRound literals (fun _ => hypothesis _) _ _ _

/-- The outcome of a computation and the formula that it leaves are the same on two solvers, whose totals
gain by the same work. -/
structure EndsAlike {α : Type} (action : Act Solver α) (left right : Solver) : Prop where
  outcome_eq : (action.runOn left).1 = (action.runOn right).1
  numVars_eq : (action.runOn left).2.backend.numVars = (action.runOn right).2.backend.numVars
  clauses_eq : (action.runOn left).2.backend.clauses = (action.runOn right).2.backend.clauses
  status_eq : (action.runOn left).2.backend.status = (action.runOn right).2.backend.status
  gains_alike : ∃ work, Gains work left (action.runOn left).2 ∧
    Gains work right (action.runOn right).2

variable {answers : Nat → Formula → Verdict} {left right : Solver}

/-- What begins with encoding the problem ends alike if what follows does so on all twins. -/
theorem endsAlike_of_encode [Platform] {α : Type} {next : List (Tensor Lit) → Act Solver α}
    (answersLeft : left.backend.engine.AnswersBy answers)
    (answersRight : right.backend.engine.AnswersBy answers)
    (rest : ∀ states unknowns others,
      List.Forall₂ (Tensor.Related (Twin left.cleared.era right.cleared.era)) unknowns others →
        (pairing left.cleared.era right.cleared.era).Corresponds states (next unknowns) (next others)
          fun _ => Eq) :
    EndsAlike (problem.encode >>= next) left right := by
  have valid : (pairing left.cleared.era right.cleared.era).Valid (left.cleared, right.cleared) :=
    ⟨⟨rfl, rfl, rfl, fun round other numVars formula =>
      (answersLeft round numVars formula).trans (answersRight other numVars formula).symm⟩, rfl, rfl⟩
  have corresponds : (pairing left.cleared.era right.cleared.era).Corresponds
      (left.cleared, right.cleared) (problem.compile >>= next) (problem.compile >>= next)
      fun _ => Eq :=
    (twin_compile problem).bind fun states unknowns others _ _ twins =>
      rest states unknowns others twins
  obtain ⟨⟨inStep, _, _⟩, ⟨work, gains, gainsRight⟩, same⟩ := corresponds valid
  simp only [Bridge.after, ← runOn_encode_bind] at inStep gains gainsRight same
  have sameStatus := congrArg (fun decision => Backend.status { left.backend with decision })
    inStep.decision_eq
  -- Clearing leaves the totals as they were.
  exact ⟨same.eq, inStep.numVars_eq, inStep.clauses_eq, sameStatus, work,
    ⟨gains.totalVariables_eq, gains.totalClauses_eq, gains.totalSolves_eq⟩,
    ⟨gainsRight.totalVariables_eq, gainsRight.totalClauses_eq, gainsRight.totalSolves_eq⟩⟩

/-- Whether a problem has a solution, a solution that is found and all solutions do not depend on what
the solver was used for before: on any two solvers, in whatever states they are, whose engines answer by
the same function, each of the three ways to solve the problem returns the same or fails with the same
fault, leaves the same formula of which the same is known, and adds the same to the totals. -/
theorem independent_of_past [Platform] (problem : Problem) (limit : Int)
    (answersLeft : left.backend.engine.AnswersBy answers)
    (answersRight : right.backend.engine.AnswersBy answers) :
    EndsAlike problem.isSolvable left right ∧ EndsAlike problem.solveOne left right ∧
      EndsAlike (problem.solveAll limit) left right := by
  refine ⟨?_, ?_, ?_⟩
  · exact endsAlike_of_encode answersLeft answersRight fun states _ _ _ => twin_solve
  · refine endsAlike_of_encode answersLeft answersRight fun states unknowns others twins => ?_
    refine twin_solve.bind fun middle satisfiable other _ _ same => ?_
    subst same
    cases satisfiable with
    | false => exact .pure rfl
    | true =>
        refine (twin_readSolution twins).bind fun _ solution other _ _ same => ?_
        exact .pure (congrArg some same)
  · refine endsAlike_of_encode answersLeft answersRight fun states unknowns others twins => ?_
    refine (twin_enumerate limit twins [] problem.maxRounds).bind fun middle found other _ _ same => ?_
    subst same
    refine (twin_announce _).bind fun _ _ _ _ _ _ => ?_
    exact .lift (.refl _ fun _ => rfl)

attribute [local instance] Platform.usual in
/-- A solver that was never used, and one on which an expression failed half-way and a contradictory
clause was searched in vain: on both, a problem is found to be solvable. -/
theorem independent_of_past_contradicted :
    let problem : Problem := { masks := [.scalar (.bool true)], predicate := .item (.ref "0") }
    let calls : List Solver.Call := [.newVariable, .evaluate [] [] (.aggregate .allEqual (.list [])),
      .addClause [Solver.bot 1], .solve]
    let fresh := Solver.create 0 { engine := .least }
    let used := calls.foldl (fun solver call => (call.run.runOn solver).2)
      (Solver.create 1 { engine := .least })
    used.counters = [2, 2, 1, 1, 1] ∧ used.backend.status = some false ∧
      EndsAlike problem.isSolvable fresh used ∧ EndsAlike problem.solveOne fresh used ∧
      EndsAlike (problem.solveAll 0) fresh used ∧
      (problem.isSolvable.runOn used).1.toOption = some true := by
  intro problem calls fresh used
  have answersFresh : fresh.backend.engine.AnswersBy (Engine.least.decide 0) := fun _ _ _ => rfl
  have reachable : Solver.Reachable 1 { engine := .least } used :=
    .called .solve (.called _ (.called _ (.called _ .created)))
  have answersUsed : used.backend.engine.AnswersBy (Engine.least.decide 0) := by
    rw [reachable.same_origin.2]
    exact fun _ _ _ => rfl
  obtain ⟨solvable, one, all⟩ := independent_of_past problem 0 answersFresh answersUsed
  refine ⟨by decide +kernel, by decide +kernel, solvable, one, all, ?_⟩
  rw [← solvable.outcome_eq]
  decide +kernel

end Problem

end TensorLogic
