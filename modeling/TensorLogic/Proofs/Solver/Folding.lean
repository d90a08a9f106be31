/-
Module: TensorLogic.Proofs.Solver.Folding
Purpose: Over a solver an expression of constants has constants for its result, the ones for its truth
  values, and leaves the formula and what is known of it as they are.
Main exports: Solver.Undisturbed, Solver.Lifted, Solver.constantValuation, Solver.interprets_constants,
  Solver.constants_fold
-/
import TensorLogic.Proofs.Expr.Meaning
import TensorLogic.Proofs.Solver.Algebra
import TensorLogic.Proofs.Solver.Models
import TensorLogic.Solver.Bench

namespace TensorLogic.Solver

/-!
A constant is found by its identity, so folding is more than equivalence: the result of a gate on
constants has to be one of the two constants again, not a literal that only has its value.  This is said by
a reading of the values in which nothing but the constants is live, and in which a computation may do
nothing but make announcements.
-/

/-- Nothing happened to a solver but announcements: it has the same literals, the same formula, the same
totals, and the same answer and model of its last search. -/
def Undisturbed (before after : Solver) : Prop :=
  after = { before with journal := after.journal }

theorem Undisturbed.refl (solver : Solver) : solver.Undisturbed solver := rfl

/-- What leaves a solver alone twice leaves it alone. -/
theorem Undisturbed.trans {first second third : Solver} (one : first.Undisturbed second)
    (two : second.Undisturbed third) : first.Undisturbed third := by
  unfold Undisturbed at one two ⊢
  rw [two, one]

theorem Undisturbed.backend_eq {before after : Solver} (undisturbed : before.Undisturbed after) :
    after.backend = before.backend := by
  unfold Undisturbed at undisturbed
  rw [undisturbed]

theorem undisturbed_note (event : Event) (solver : Solver) :
    solver.Undisturbed (HasJournal.note event solver) := rfl

/-- A value is the constant of a solver for a truth value. -/
def Lifted {γ : Type} (owner : Nat) (value : Value Lit) (truth : Value γ) : Prop :=
  ∃ constant : Bool, value = .elem (lift owner constant) ∧ truth = .bool constant

/-- The reading in which the constants of a solver are the only elements. -/
def constantValuation (owner : Nat) : Valuation Solver (Value Lit) where
  Valid := fun solver => solver.owner = owner
  Reaches := Undisturbed
  Live := fun _ value => ∃ constant : Bool, value = .elem (lift owner constant)
  Consistent := fun _ => True
  value := fun
    | .elem literal => literal = top owner
    | _ => false
  reaches_refl := .refl
  reaches_trans := .trans
  live_of_reaches := fun _ live => live
  consistent_of_reaches := fun _ _ => trivial

/-- A lifted constant has its value. -/
@[simp]
theorem value_lift (owner : Nat) (constant : Bool) :
    (constantValuation owner).value (.elem (lift owner constant)) = constant := by
  cases constant with
  | false => exact decide_eq_false (bot_ne_top owner)
  | true => exact decide_eq_true rfl

variable {owner : Nat} {solver : Solver}

/-- Lifted constants are live in every formula of their solver. -/
theorem live_lifts (solver : Solver) (constants : List Bool) :
    ∀ literal ∈ constants.map (lift solver.owner), solver.Live literal := by
  intro literal member
  obtain ⟨constant, _, rfl⟩ := List.mem_map.1 member
  exact live_lift solver constant

/-- Negating a lifted constant lifts the negation. -/
theorem neg_lift (owner : Nat) (constant : Bool) :
    (lift owner constant).neg = lift owner !constant := by
  cases constant <;> rfl

/-- Values that are live as constants are lifted constants. -/
theorem exists_constants {values : List (Value Lit)}
    (live : ∀ value ∈ values, (constantValuation owner).Live solver value) :
    ∃ constants : List Bool, values = (constants.map (lift owner)).map .elem := by
  induction values with
  | nil => exact ⟨[], rfl⟩
  | cons value values hypothesis =>
      obtain ⟨constant, rfl⟩ := live value List.mem_cons_self
      obtain ⟨constants, rfl⟩ := hypothesis fun other member => live other (List.mem_cons_of_mem _ member)
      exact ⟨constant :: constants, rfl⟩

theorem values_lift (owner : Nat) (constants : List Bool) :
    ((constants.map (lift owner)).map Value.elem).map (constantValuation owner).value = constants := by
  rw [List.map_map, List.map_map]
  exact (List.map_congr_left fun constant _ => value_lift owner constant).trans (List.map_id constants)

/-- A computation that returns the constant for a value, and does nothing else, computes this value. -/
theorem computes_lift {action : Act Solver (Value Lit)} {constant : Bool}
    (ran : solver.owner = owner →
      action.runOn solver = (.ok (.elem (lift owner constant)), solver)) :
    (constantValuation owner).Computes solver action constant :=
  fun valid => ⟨_, solver, ran valid, valid, .refl solver, ⟨constant, rfl⟩, fun _ =>
    value_lift owner constant⟩

/-! ## The gates on constants -/

theorem fixes_constants (owner : Nat) :
    (constantValuation owner).Fixes (algebra owner).toConstants where
  live_bot := fun _ _ => ⟨false, rfl⟩
  live_top := fun _ _ => ⟨true, rfl⟩
  value_bot := fun _ _ _ => value_lift owner false
  value_top := fun _ _ _ => value_lift owner true

theorem negates_constants (owner : Nat) :
    (constantValuation owner).RealizesNeg (algebra owner).neg := by
  rintro solver _ ⟨constant, rfl⟩
  rw [value_lift]
  refine computes_lift fun isOwner => ?_
  subst isOwner
  have live := live_lift solver constant
  change (do pure (Value.elem (← neg (← operand (.elem (lift solver.owner constant)))))
    : Act Solver (Value Lit)).runOn solver = _
  rw [Act.runOn_bind_ok (runOn_operand live)]
  unfold neg
  rw [bind_assoc, Act.runOn_bind_ok (runOn_check live.owns), pure_bind, neg_lift, Act.runOn_pure]

/-- A gate with two operands folds constants if the literal that it finds for them without clauses is the
right constant. -/
theorem folds_gate {connective : Connective} {simple? : Nat → Lit → Lit → Option Lit}
    {clauses : Lit → Lit → Lit → List (List Lit)}
    (simplifies : ∀ owner left right, simple? owner (lift owner left) (lift owner right) =
      some (lift owner (connective.eval left right))) :
    (constantValuation owner).Realizes connective (onOperands fun left right => do
      checkAll [left, right]
      gate simple? clauses left right (← get)) := by
  rintro solver _ _ ⟨left, rfl⟩ ⟨right, rfl⟩
  rw [value_lift, value_lift]
  refine computes_lift fun isOwner => ?_
  subst isOwner
  have liveLeft := live_lift solver left
  have liveRight := live_lift solver right
  have checked : (checkAll [lift solver.owner left, lift solver.owner right]).runOn solver =
      (.ok (), solver) :=
    runOn_checks fun literal member => (live_pair liveLeft liveRight literal member).owns
  rw [runOn_onOperands liveLeft liveRight, bind_assoc, Act.runOn_bind_ok checked, bind_assoc,
    Act.runOn_bind_ok (Act.runOn_get solver)]
  unfold gate
  rw [simplifies]
  rfl

/-- A conjunction of constants is simple: it is the constant that the connective gives. -/
theorem simpleConj?_lift (owner : Nat) (left right : Bool) :
    simpleConj? owner (lift owner left) (lift owner right) =
      some (lift owner (Connective.conj.eval left right)) := by
  cases left <;> cases right <;>
    simp [simpleConj?, lift, Connective.eval, (bot_ne_top owner).symm]

/-- A disjunction of constants is simple: it is the constant that the connective gives. -/
theorem simpleDisj?_lift (owner : Nat) (left right : Bool) :
    simpleDisj? owner (lift owner left) (lift owner right) =
      some (lift owner (Connective.disj.eval left right)) := by
  cases left <;> cases right <;> simp [simpleDisj?, lift, Connective.eval, bot_ne_top]

/-- An exclusive disjunction of constants is simple: it is the constant that the connective gives. -/
theorem simpleXor?_lift (owner : Nat) (left right : Bool) :
    simpleXor? owner (lift owner left) (lift owner right) =
      some (lift owner (Connective.xor.eval left right)) := by
  cases left <;> cases right <;> simp [simpleXor?, lift, Connective.eval, Lit.neg, top, bot]

/-- Of constants nothing is collected: the neutral one is passed over, and the other one decides. -/
theorem collectLits_lift (owner : Nat) (absorbed : Bool) (constants : List Bool) :
    collectLits (lift owner !absorbed) (lift owner absorbed) [] (constants.map (lift owner)) =
      if absorbed ∈ constants then none else some [] := by
  induction constants with
  | nil => rfl
  | cons constant constants hypothesis =>
      rw [List.map_cons, collectLits]
      by_cases same : constant = absorbed
      · rw [if_pos (Or.inl (congrArg _ same)), if_pos (same ▸ List.mem_cons_self)]
      · have isNeutral : constant = !absorbed := Bool.eq_not.2 same
        have differs : lift owner constant ≠ lift owner absorbed := by
          intro equal
          rw [← value_lift owner constant, equal, value_lift] at same
          exact same rfl
        rw [if_neg (by simpa using differs), if_pos (Or.inl (congrArg _ isNeutral)), hypothesis]
        simp only [List.mem_cons, Ne.symm same, false_or]

/-- A gate with any number of operands folds constants. -/
theorem folds_quantifier {aggregate : Aggregate} {absorbed : Bool} {neutral absorbing : Nat → Lit}
    {clauses : List Lit → Lit → List (List Lit)}
    (means : ∀ values, aggregate.eval values = some (quantified absorbed values))
    (isNeutral : ∀ owner, neutral owner = lift owner !absorbed)
    (isAbsorbing : ∀ owner, absorbing owner = lift owner absorbed) :
    (constantValuation owner).RealizesAggregate aggregate (onAll fun literals => do
      checkAll literals
      quantifier neutral absorbing clauses literals (← get)) := by
  intro solver values live
  obtain ⟨constants, rfl⟩ := exists_constants live
  rw [values_lift, means]
  refine computes_lift fun isOwner => ?_
  subst isOwner
  have liveAll := live_lifts solver constants
  have checked : (checkAll (constants.map (lift solver.owner))).runOn solver = (.ok (), solver) :=
    runOn_checks fun literal member => (liveAll literal member).owns
  rw [runOn_onAll liveAll, bind_assoc, Act.runOn_bind_ok checked, bind_assoc,
    Act.runOn_bind_ok (Act.runOn_get solver)]
  unfold quantifier
  rw [distinctLits?_eq, isNeutral, isAbsorbing, collectLits_lift]
  by_cases decided : absorbed ∈ constants
  · rw [if_pos decided, quantified_of_mem decided]
    rfl
  · have undecided : quantified absorbed constants = !absorbed := by
      have noMember : absorbed ∈ constants ↔ absorbed ∈ ([] : List Bool) := by simp [decided]
      rw [quantified_congr noMember]
      cases absorbed <;> rfl
    rw [if_neg decided, undecided]
    rfl

/-- Over the constants of a solver all operations of its algebra compute what their names say, without a
variable or a clause. -/
theorem interprets_constants (owner : Nat) : (constantValuation owner).Interprets (algebra owner) :=
  interprets_of_gates (fixes_constants owner) (negates_constants owner) (folds_gate simpleConj?_lift)
    (folds_gate simpleDisj?_lift) (folds_gate simpleXor?_lift)
    (folds_quantifier (fun values => congrArg some (quantified_false values).symm) (fun _ => rfl)
      fun _ => rfl)
    (folds_quantifier (fun values => congrArg some (quantified_true values).symm) (fun _ => rfl)
      fun _ => rfl)

/-! ## Expressions of constants -/

theorem bears_constants (owner : Nat) : (constantValuation owner).Bears where
  note := fun event solver isOwner => ⟨isOwner, undisturbed_note event solver⟩
  placed := by
    rintro _ _ site ⟨constant, rfl⟩
    rfl

/-- A value is the lifting of a truth value exactly when it means that truth value among constants. -/
theorem lifted_iff_means {τ γ : Type} {states : Solver × τ} {value : Value Lit} {truth : Value γ} :
    (constantValuation owner).Means states value truth ↔ Lifted owner value truth := by
  constructor
  · rintro ⟨⟨constant, rfl⟩, value, rfl, valued⟩
    exact ⟨constant, rfl, by rw [← valued trivial, value_lift]⟩
  · rintro ⟨constant, rfl, rfl⟩
    exact ⟨⟨constant, rfl⟩, constant, rfl, fun _ => value_lift owner constant⟩

/-- Constants fold away.  In any state of a solver an expression whose names stand for constants, or for
lists and tensors of constants, fails exactly where it fails on truth values, with the same fault.
Otherwise its value is the constant for its truth value, in a list or a tensor member by member.  Nothing
is allocated and nothing is asserted, and the answer and the model of the last search stay as they are. -/
theorem constants_fold [Platform] {context : Context} {names : Environment Lit} {truths : Environment Empty}
    {expression : Expr} {kind : Kind} (solver : Solver)
    (related : Environment.Related (Lifted solver.owner) context names truths)
    (typed : expression.HasKind context kind) (site : Site) :
    let ran := (evaluate names site expression).runOn solver
    solver.Undisturbed ran.2 ∧
      SameOutcome (kind.Relates (Lifted solver.owner)) ran.1
        ((expression.eval { algebra := Truth.algebra } truths site).runOn (#[] : Journal)).1 := by
  have respects : (algebra solver.owner).Respects ((constantValuation solver.owner).bridge Journal)
      (constantValuation solver.owner).Means (Truth.algebra : BoolAlgebra Journal (Value Empty)) :=
    (interprets_constants solver.owner).respects (bears_constants solver.owner)
  have agrees : Expr.Agrees ((constantValuation solver.owner).bridge Journal)
      (constantValuation solver.owner).Means { algebra := algebra solver.owner }
      { algebra := (Truth.algebra : BoolAlgebra Journal (Value Empty)) } context expression kind :=
    typed.agrees respects
  obtain ⟨_, undisturbed, same⟩ := agrees site (solver, #[]) names truths
    (related.mono fun _ _ => lifted_iff_means.2) rfl
  exact ⟨undisturbed, same.mono fun _ _ alike => alike.mono fun _ _ => lifted_iff_means.1⟩

attribute [local instance] Platform.usual in
/-- The parity of the products of a row of constants with itself, after a search that found a model. -/
theorem constants_fold_product :
    let solver := (newVariable.runOn (create 0 { engine := .least })).2.searched (.model fun _ => true)
    let row : Value Lit := .tensor none [3] [.elem (top 0), .elem (bot 0), .elem (top 0)]
    let product : Expr := .item (.contract .linear [.ref "row", .ref "row"] [.str "i", .str "i"]
      (.ofList []))
    let ran := (evaluate [("row", row)] [] product).runOn solver
    ran.1 = .ok (.elem (bot 0)) ∧ ran.2.backend = solver.backend := by
  intro solver row product
  let truths : Environment Empty := [("row", .tensor none [3] [.bool true, .bool false, .bool true])]
  have related : Environment.Related (Lifted 0) [("row", .tensor .elem)] [("row", row)] truths := by
    have nothing : Environment.Related (Lifted (γ := Empty) 0) [] [] [] :=
      fun _ _ impossible => nomatch impossible
    refine nothing.cons "row" ?_
    refine ⟨none, [3], _, _, rfl, rfl, .cons ⟨true, rfl, rfl⟩ (.cons ⟨false, rfl, rfl⟩ ?_)⟩
    exact .cons ⟨true, rfl, rfl⟩ .nil
  have typed : product.HasKind [("row", .tensor .elem)] .elem := by
    refine .item (.contract .linear _ _ fun source member => ?_)
    have isRow : source = .ref "row" := by simpa using member
    exact isRow ▸ .ref rfl
  obtain ⟨undisturbed, same⟩ := constants_fold solver related typed []
  have isFalse : ((product.eval { algebra := Truth.algebra } truths []).runOn (#[] : Journal)).1 =
      .ok (.bool false) := rfl
  rw [isFalse] at same
  generalize (evaluate [("row", row)] [] product).runOn solver = ran at undisturbed same ⊢
  obtain ⟨outcome, after⟩ := ran
  cases same with
  | ok alike =>
      obtain ⟨constant, rfl, isConstant⟩ := alike
      cases isConstant
      exact ⟨rfl, undisturbed.backend_eq⟩

end TensorLogic.Solver
