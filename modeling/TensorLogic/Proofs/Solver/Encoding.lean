/-
Module: TensorLogic.Proofs.Solver.Encoding
Purpose: The formula that a solver builds for an expression means what the expression means on truth
  values, and has as many models as before.
Main exports: Solver.Holds, Solver.Provides, Expr.truthUnder, Solver.agrees_on_truth,
  Solver.Reachable.encoding_faithful
-/
import TensorLogic.Proofs.Expr.Meaning
import TensorLogic.Proofs.Expr.Reading
import TensorLogic.Proofs.Solver.Algebra
import TensorLogic.Proofs.Solver.Reachable

namespace TensorLogic

/-- The value of a literal under an assignment, as an element of the algebra of truth values. -/
def Assignment.truthOf {γ : Type} (assignment : Assignment) (literal : Lit) : Value γ :=
  .bool (assignment.value literal)

/-- The outcome of an expression on truth values, where an assignment gives the literals in the named
values their values. -/
def Expr.truthUnder [Platform] (expression : Expr) (names : Environment Lit) (site : Site)
    (assignment : Assignment) : Except Fault (Value Empty) :=
  ((expression.eval { algebra := Truth.algebra } (names.read assignment.truthOf) site).runOn
    (#[] : Journal)).1

namespace Solver

/-- A value that is a literal which the solver can use. -/
def Holds (solver : Solver) (value : Value Lit) : Prop :=
  ∃ literal, value = .elem literal ∧ solver.Live literal

/-- Every name of a context stands for a value of its kind over literals that the solver can use. -/
def Provides (solver : Solver) (context : Context) (names : Environment Lit) : Prop :=
  ∀ name kind, context.lookup name = some kind →
    ∃ value, names.lookup name = some value ∧ kind.Contains solver.Holds value

theorem grows_note (event : Event) (solver : Solver) :
    solver.Grows (HasJournal.note event solver) :=
  ⟨rfl, rfl, Nat.le_refl _, List.prefix_refl _, .refl _ _⟩

/-- Announcements do not matter to the literals of a solver, which are placed nowhere. -/
theorem bears_algebra (owner : Nat) (assignment : Assignment) :
    (algebraValuation owner assignment).Bears where
  note := fun event solver ⟨wellFormed, isOwner⟩ =>
    ⟨⟨⟨wellFormed.isOver, wellFormed.asserts_top⟩, isOwner⟩, grows_note event solver⟩
  placed := by
    rintro solver _ site ⟨literal, rfl, _⟩
    rfl

variable {solver : Solver} {context : Context} {names : Environment Lit} {expression : Expr}
  {kind : Kind}

theorem provides_nil (solver : Solver) : solver.Provides [] [] :=
  fun _ _ impossible => nomatch impossible

theorem Live.contains {literal : Lit} (live : solver.Live literal) :
    Kind.elem.Contains solver.Holds (.elem literal) :=
  ⟨literal, rfl, live⟩

/-- A name may be bound to one more value of its kind. -/
theorem Provides.cons (provides : solver.Provides context names) {value : Value Lit}
    (contains : kind.Contains solver.Holds value) (name : String) :
    solver.Provides ((name, kind) :: context) ((name, value) :: names) := by
  intro other otherKind found
  rw [List.lookup_cons] at found ⊢
  cases same : other == name with
  | true =>
      rw [same] at found
      cases found
      exact ⟨value, rfl, contains⟩
  | false =>
      rw [same] at found
      exact provides other otherKind found

/-- Named values stand for their truth values under an assignment. -/
theorem Provides.related {τ γ : Type} (provides : solver.Provides context names)
    (assignment : Assignment) (state : τ) :
    Environment.Related
      ((algebraValuation solver.owner assignment).Means (solver, state))
      context names (names.read (assignment.truthOf : Lit → Value γ)) := by
  intro name kind found
  obtain ⟨value, isValue, contains⟩ := provides name kind found
  refine ⟨value, value.read assignment.truthOf, isValue, ?_, contains.relates ?_⟩
  · rw [Environment.lookup_read, isValue, Option.map_some]
  · rintro _ ⟨literal, rfl, live⟩
    exact ⟨⟨literal, rfl, live⟩, assignment.value literal, rfl, fun _ => rfl⟩

/-- Over a solver an expression has the same outcome as on truth values, with literals that mean these
truth values. -/
theorem agrees_on_truth [Platform] {τ γ : Type} [HasJournal τ] (wellFormed : solver.WellFormed)
    (provides : solver.Provides context names) (typed : expression.HasKind context kind)
    (site : Site) (assignment : Assignment) (state : τ) :
    let ran := (evaluate names site expression).runOn solver
    ran.2.WellFormed ∧ solver.Grows ran.2 ∧
      SameOutcome
        (kind.Relates ((algebraValuation solver.owner assignment).Means (ran.2, state)))
        ran.1
        ((expression.eval { algebra := Truth.algebra }
          (names.read (assignment.truthOf : Lit → Value γ)) site).runOn state).1 := by
  have respects : (algebra solver.owner).Respects
      ((algebraValuation solver.owner assignment).bridge τ)
      (algebraValuation solver.owner assignment).Means
      (Truth.algebra : BoolAlgebra τ (Value γ)) :=
    (interprets_algebra solver.owner assignment).respects (bears_algebra solver.owner assignment)
  have agrees : Expr.Agrees ((algebraValuation solver.owner assignment).bridge τ)
      (algebraValuation solver.owner assignment).Means { algebra := algebra solver.owner }
      { algebra := (Truth.algebra : BoolAlgebra τ (Value γ)) } context expression kind :=
    typed.agrees respects
  obtain ⟨⟨valid, _⟩, grows, same⟩ := agrees site (solver, state) names
    (names.read assignment.truthOf) (provides.related assignment state) ⟨wellFormed, rfl⟩
  refine ⟨valid, grows, same.mono fun first second related => ?_⟩
  exact related

/-- In a model of the final formula, the meaning of a value is what is read from it. -/
theorem truth_of_means {owner : Nat} {assignment : Assignment} {after : Solver}
    (holds : after.backend.formula.eval assignment = true) {τ : Type} {state : τ}
    (first : Value Lit) (second : Value Empty)
    (means : (algebraValuation owner assignment).Means (after, state) first second) :
    second = first.read assignment.truthOf := by
  obtain ⟨⟨literal, rfl, _⟩, value, rfl, valued⟩ := means
  rw [← valued holds]
  rfl

/-- A result over a solver consists of literals, which in every model of the formula are worth what the
expression is worth on truth values. -/
theorem truthUnder_of_evaluate [Platform] (wellFormed : solver.WellFormed)
    (provides : solver.Provides context names) (typed : expression.HasKind context kind) (site : Site)
    {result : Value Lit} {after : Solver}
    (ran : (evaluate names site expression).runOn solver = (.ok result, after)) :
    kind.Contains after.Holds result ∧ ∀ assignment, ∃ truth,
      expression.truthUnder names site assignment = .ok truth ∧
        (after.backend.formula.eval assignment = true →
          truth = result.read assignment.truthOf) := by
  have agrees := fun assignment => agrees_on_truth (γ := Empty) wellFormed provides typed site
    assignment (#[] : Journal)
  simp only [ran] at agrees
  constructor
  · obtain ⟨_, _, same⟩ := agrees fun _ => false
    generalize (Act.runOn _ _).1 = truth at same
    cases same with
    | ok related => exact related.contains fun first second means => means.1
  · intro assignment
    obtain ⟨_, _, same⟩ := agrees assignment
    unfold Expr.truthUnder
    generalize (Act.runOn _ _).1 = truth at same ⊢
    cases same with
    | @ok _ value related =>
        exact ⟨value, rfl, fun holds => related.eq_read (truth_of_means holds)⟩

/-- Encoding is faithful and conservative.  Over a solver in any state that it can be in, an expression
fails exactly where it fails on truth values, with the same fault.  Otherwise its value consists of
literals which in every model of the new formula are worth what the expression is worth on the values of
the literals in it.  The new formula extends the old one, and every model of the old one extends to
exactly one model of the new one. -/
theorem Reachable.encoding_faithful [Platform] {owner : Nat} {backend : Backend}
    (reachable : Reachable owner backend solver) (provides : solver.Provides context names)
    (typed : expression.HasKind context kind) (site : Site) :
    ∃ outcome after, (evaluate names site expression).runOn solver = (outcome, after) ∧
      after.backend.formula.IsOver after.backend.numVars ∧ solver.Grows after ∧
      match outcome with
      | .error fault => ∀ assignment, expression.truthUnder names site assignment = .error fault
      | .ok result => kind.Contains after.Holds result ∧ ∀ assignment, ∃ truth,
          expression.truthUnder names site assignment = .ok truth ∧
            (after.backend.formula.eval assignment = true →
              truth = result.read assignment.truthOf) := by
  have agrees := fun assignment => agrees_on_truth (γ := Empty) reachable.wellFormed provides typed
    site assignment (#[] : Journal)
  cases ran : (evaluate names site expression).runOn solver with
  | mk outcome after =>
      simp only [ran] at agrees
      obtain ⟨wellFormed, grows, _⟩ := agrees fun _ => false
      refine ⟨outcome, after, rfl, wellFormed.isOver, grows, ?_⟩
      cases outcome with
      | error fault =>
          intro assignment
          obtain ⟨_, _, same⟩ := agrees assignment
          unfold Expr.truthUnder
          generalize (Act.runOn _ _).1 = truth at same ⊢
          cases same
          rfl
      | ok result => exact truthUnder_of_evaluate reachable.wellFormed provides typed site ran

attribute [local instance] Platform.usual in
/-- The conjunction of the first two variables of a solver is its third one. -/
theorem encoding_faithful_conj :
    let solver := (newVariable.runOn (newVariable.runOn (create 0 { engine := .least })).2).2
    let names : Environment Lit := [("x", .elem ⟨.formula 0 1, 2⟩), ("y", .elem ⟨.formula 0 1, 3⟩)]
    let ran := (evaluate names [] (.connective .conj (.ref "x") (.ref "y"))).runOn solver
    Reachable 0 { engine := .least } solver ∧ ran.1 = .ok (.elem ⟨.formula 0 1, 4⟩) ∧
      ∀ assignment, ran.2.backend.formula.eval assignment = true →
        assignment 4 = (assignment 2 && assignment 3) := by
  intro solver names ran
  have reachable : Reachable 0 { engine := .least } solver :=
    .called .newVariable (.called .newVariable .created)
  have live : ∀ code : Int, 2 ≤ code.natAbs → code.natAbs ≤ 3 →
      solver.Live ⟨.formula 0 1, code⟩ := fun code atLeast atMost => Or.inr ⟨rfl, atLeast, atMost⟩
  have provides : solver.Provides [("x", .elem), ("y", .elem)] names :=
    ((provides_nil solver).cons (live 3 (by decide) (by decide)).contains "y").cons
      (live 2 (by decide) (by decide)).contains "x"
  have typed : (Expr.connective .conj (.ref "x") (.ref "y")).HasKind
      [("x", .elem), ("y", .elem)] .elem :=
    .connective .conj (.ref rfl) (.ref rfl)
  obtain ⟨outcome, after, isRan, _, _, faithful⟩ := reachable.encoding_faithful provides typed []
  have isOutcome : ran.1 = .ok (.elem ⟨.formula 0 1, 4⟩) := rfl
  refine ⟨reachable, isOutcome, fun assignment holds => ?_⟩
  have isPair : ran = (outcome, after) := isRan
  rw [isPair] at isOutcome holds
  cases isOutcome
  obtain ⟨truth, isTruth, means⟩ := faithful.2 assignment
  have conjoined : (Expr.connective .conj (.ref "x") (.ref "y")).truthUnder names [] assignment =
      .ok (Truth.ofBool (assignment 2 && assignment 3)) := rfl
  have same := means holds
  rw [isTruth, Value.ofBool_eq] at conjoined
  cases conjoined
  exact (Scalar.bool.inj (Value.scalar.inj same).2).symm

end Solver

end TensorLogic
