/-
Module: TensorLogic.Proofs.Solver.Algebra
Purpose: The algebra of a solver computes with live literals what the names of its operations say.
Main exports: Solver.algebraValuation, Solver.interprets_of_gates, Solver.interprets_algebra
-/
import TensorLogic.Proofs.Solver.Gates
import TensorLogic.Solver.Algebra

namespace TensorLogic.Solver

/-- What the values of the algebra of a solver mean under an assignment.  Only literals have a
meaning. -/
def algebraValuation (owner : Nat) (assignment : Assignment) : Valuation Solver (Value Lit) where
  Valid := fun solver => solver.WellFormed ∧ solver.owner = owner
  Reaches := Grows
  Live := fun solver value => ∃ literal, value = .elem literal ∧ solver.Live literal
  Consistent := fun solver => solver.backend.formula.eval assignment = true
  value := fun
    | .elem literal => assignment.value literal
    | _ => false
  reaches_refl := Grows.refl
  reaches_trans := Grows.trans
  live_of_reaches := fun grows ⟨literal, isElem, live⟩ => ⟨literal, isElem, live.of_grows grows⟩
  consistent_of_reaches := Grows.keeps_eval

variable {owner : Nat} {assignment : Assignment} {solver : Solver}

theorem runOn_operand_of_owns {literal : Lit} (owns : solver.Owns literal) :
    (operand (.elem literal)).runOn solver = (.ok literal, solver) := by
  unfold operand
  rw [Act.runOn_bind_ok (runOn_check owns), Act.runOn_pure]

/-- A live literal is an operand, and reading it leaves the solver alone. -/
theorem runOn_operand {literal : Lit} (live : solver.Live literal) :
    (operand (.elem literal)).runOn solver = (.ok literal, solver) :=
  runOn_operand_of_owns live.owns

theorem runOn_operands {literals : List Lit} (live : ∀ literal ∈ literals, solver.Live literal) :
    (operands (literals.map .elem)).runOn solver = (.ok literals, solver) := by
  induction literals with
  | nil => rfl
  | cons literal literals hypothesis =>
      have rest := hypothesis fun other member => live other (List.mem_cons_of_mem _ member)
      rw [List.map_cons, operands, Act.runOn_bind_ok (runOn_operand (live literal List.mem_cons_self)),
        Act.runOn_bind_ok rest, Act.runOn_pure]

/-- An operation on two values computes its result of the literals that they are. -/
theorem runOn_onOperands {left right : Lit} (liveLeft : solver.Live left) (liveRight : solver.Live right)
    (operation : Lit → Lit → Act Solver Lit) :
    (onOperands operation (.elem left) (.elem right)).runOn solver =
      (do pure (.elem (← operation left right)) : Act Solver (Value Lit)).runOn solver := by
  unfold onOperands
  rw [Act.runOn_bind_ok (runOn_operand liveLeft), Act.runOn_bind_ok (runOn_operand liveRight)]

theorem runOn_onAll {literals : List Lit} (live : ∀ literal ∈ literals, solver.Live literal)
    (operation : List Lit → Act Solver Lit) :
    (onAll operation (literals.map .elem)).runOn solver =
      (do pure (.elem (← operation literals)) : Act Solver (Value Lit)).runOn solver := by
  unfold onAll
  rw [Act.runOn_bind_ok (runOn_operands live)]

/-- Values that are live in a solver are literals of it. -/
theorem exists_literals {values : List (Value Lit)}
    (live : ∀ value ∈ values, (algebraValuation owner assignment).Live solver value) :
    ∃ literals : List Lit, values = literals.map .elem ∧ ∀ literal ∈ literals, solver.Live literal := by
  induction values with
  | nil => exact ⟨[], rfl, fun _ member => nomatch member⟩
  | cons value values hypothesis =>
      obtain ⟨literal, rfl, liveLiteral⟩ := live value List.mem_cons_self
      obtain ⟨literals, rfl, liveRest⟩ :=
        hypothesis fun other member => live other (List.mem_cons_of_mem _ member)
      refine ⟨literal :: literals, rfl, fun other member => ?_⟩
      rcases List.mem_cons.1 member with rfl | inside
      · exact liveLiteral
      · exact liveRest other inside

/-- An operation that computes a literal computes it as a value. -/
theorem computes_elem {action : Act Solver Lit} {value : Bool}
    (computes : (literalValuation assignment).Computes solver action value) :
    (algebraValuation owner assignment).Computes solver (do pure (.elem (← action))) value := by
  intro valid
  obtain ⟨literal, next, ran, wellFormed, grows, live, valued⟩ := computes valid.1
  refine ⟨.elem literal, next, ?_, ⟨wellFormed, grows.owner_eq.trans valid.2⟩, grows,
    ⟨literal, rfl, live⟩, valued⟩
  rw [Act.runOn_bind_ok ran, Act.runOn_pure]

/-- The constants of the algebra are the two constant literals. -/
theorem fixes_algebra : (algebraValuation owner assignment).Fixes (algebra owner).toConstants where
  live_bot := by
    rintro solver ⟨_, rfl⟩
    exact ⟨_, rfl, live_bot solver⟩
  live_top := by
    rintro solver ⟨_, rfl⟩
    exact ⟨_, rfl, live_top solver⟩
  value_bot := fun _ valid consistent =>
    Assignment.value_bot (WellFormed.top_holds valid.1 consistent) owner
  value_top := fun _ valid consistent =>
    Assignment.value_top (WellFormed.top_holds valid.1 consistent) owner

/-- A gate on literals is one on values, after its operands are checked. -/
theorem realizes_onOperands {connective : Connective} {operation : Lit → Lit → Act Solver Lit}
    (realizes : (literalValuation assignment).Realizes connective operation) :
    (algebraValuation owner assignment).Realizes connective (onOperands operation) := by
  rintro solver _ _ ⟨left, rfl, liveLeft⟩ ⟨right, rfl, liveRight⟩ valid
  rw [runOn_onOperands liveLeft liveRight]
  exact computes_elem (realizes solver left right liveLeft liveRight) valid

/-- A gate on lists of literals is one on lists of values, after they are checked. -/
theorem realizes_onAll {aggregate : Aggregate} {operation : List Lit → Act Solver Lit}
    (total : ∀ values, (aggregate.eval values).isSome = true)
    (realizes : (literalValuation assignment).RealizesAggregate aggregate operation) :
    (algebraValuation owner assignment).RealizesAggregate aggregate (onAll operation) := by
  intro solver values live
  obtain ⟨literals, rfl, liveLiterals⟩ := exists_literals live
  have computes := realizes solver literals liveLiterals
  have sameValues : (literals.map Value.elem).map (algebraValuation owner assignment).value =
      literals.map (literalValuation assignment).value := by
    rw [List.map_map]
    rfl
  obtain ⟨value, isValue⟩ := Option.isSome_iff_exists.1
    (total (literals.map (literalValuation assignment).value))
  rw [sameValues]
  rw [isValue] at computes ⊢
  intro valid
  rw [runOn_onAll liveLiterals]
  exact computes_elem computes valid

theorem realizes_algebra_neg :
    (algebraValuation owner assignment).RealizesNeg (algebra owner).neg := by
  rintro solver _ ⟨literal, rfl, live⟩ valid
  change ∃ result next, (do pure (Value.elem (← neg (← operand (.elem literal))))).runOn solver = _ ∧ _
  rw [Act.runOn_bind_ok (runOn_operand live)]
  exact computes_elem (realizes_neg assignment solver literal live) valid

/-- The algebra of a solver computes what the names of its operations say if its gates do, since what it
inherits is made of these. -/
theorem interprets_of_gates {valuation : Valuation Solver (Value Lit)}
    (fixes : valuation.Fixes (algebra owner).toConstants)
    (negates : valuation.RealizesNeg (algebra owner).neg)
    (conjoins : valuation.Realizes .conj (onOperands conj))
    (joins : valuation.Realizes .disj (onOperands disj))
    (differs : valuation.Realizes .xor (onOperands xor))
    (quantifiesAll : valuation.RealizesAggregate .all (onAll all))
    (quantifiesAny : valuation.RealizesAggregate .any (onAll any)) :
    valuation.Interprets (algebra owner) := by
  have compares : valuation.Realizes .iff (algebra owner).iff := .iffOf negates differs
  have orders : valuation.RealizesComparison .lexLt (algebra owner).lexLt :=
    .lexLtOf fixes negates conjoins joins compares
  refine ⟨fixes, fixes.lift, negates, fun connective => ?_, fun aggregate => ?_, fun comparison => ?_⟩
  · cases connective with
    | conj => exact conjoins
    | disj => exact joins
    | xor => exact differs
    | iff => exact compares
    | imp => exact .impOf negates joins
  · cases aggregate with
    | all => exact quantifiesAll
    | any => exact quantifiesAny
    | parity => exact .parityFrom fixes differs
    | one => exact .oneOf fixes negates conjoins joins
    | many => exact .manyOf fixes conjoins joins
    | allEqual => exact .allEqualOf fixes conjoins compares
  · cases comparison with
    | lexLt => exact orders
    | lexLe => exact .lexLeOf negates orders

/-- The algebra of a solver computes what the names of its operations say, under every assignment. -/
theorem interprets_algebra (owner : Nat) (assignment : Assignment) :
    (algebraValuation owner assignment).Interprets (algebra owner) :=
  interprets_of_gates fixes_algebra realizes_algebra_neg (realizes_onOperands (realizes_conj assignment))
    (realizes_onOperands (realizes_disj assignment)) (realizes_onOperands (realizes_xor assignment))
    (realizes_onAll (fun _ => rfl) (realizes_all assignment))
    (realizes_onAll (fun _ => rfl) (realizes_any assignment))

end TensorLogic.Solver
