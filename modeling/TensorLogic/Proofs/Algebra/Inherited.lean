/-
Module: TensorLogic.Proofs.Algebra.Inherited
Purpose: An algebra that only says what negation and conjunction are computes all other operations
  rightly, with whatever elements it answers.
Main exports: Valuation.interprets_inherit, Valuation.Derives, Circuit.reading, Truth.reading,
  Valuation.inherit_derives
-/
import Mathlib.Algebra.Ring.Parity
import Mathlib.Data.List.Lex
import Mathlib.Tactic.IntervalCases
import TensorLogic.Algebra.Circuit
import TensorLogic.Proofs.Algebra.Truth

namespace TensorLogic

namespace Valuation

variable {σ V α : Type} {valuation : Valuation σ V}

/-! ## Operations on two elements -/

/-- The inherited disjunction is a disjunction, by one of De Morgan's laws. -/
theorem Realizes.disjOf {neg : V → Act σ V} {conj : V → V → Act σ V}
    (negates : valuation.RealizesNeg neg) (conjoins : valuation.Realizes .conj conj) :
    valuation.Realizes .disj (Constants.disjOf neg conj) := by
  intro state left right liveLeft liveRight
  refine Runs.bind (negates state left liveLeft) fun s₁ notLeft _ r₁ ⟨live₁, valued₁⟩ => ?_
  refine Runs.bind (negates s₁ right (valuation.live_of_reaches r₁ liveRight))
    fun s₂ notRight _ r₂ ⟨live₂, valued₂⟩ => ?_
  refine Runs.bind (conjoins s₂ _ _ (valuation.live_of_reaches r₂ live₁) live₂)
    fun s₃ neither _ r₃ ⟨live₃, valued₃⟩ => ?_
  refine (negates s₃ neither live₃).weaken fun s₄ result r₄ ⟨live₄, valued₄⟩ =>
    ⟨live₄, fun consistent => ?_⟩
  have c₃ := valuation.consistent_of_reaches r₄ consistent
  have c₂ := valuation.consistent_of_reaches r₃ c₃
  have c₁ := valuation.consistent_of_reaches r₂ c₂
  rw [valued₄ consistent, valued₃ c₃, valued₂ c₂, valued₁ c₁]
  cases valuation.value left <;> cases valuation.value right <;> rfl

/-- The inherited exclusive disjunction tells whether two elements differ. -/
theorem Realizes.xorOf {neg : V → Act σ V} {conj disj : V → V → Act σ V}
    (negates : valuation.RealizesNeg neg) (conjoins : valuation.Realizes .conj conj)
    (joins : valuation.Realizes .disj disj) :
    valuation.Realizes .xor (Constants.xorOf neg conj disj) := by
  intro state left right liveLeft liveRight
  refine Runs.bind (negates state right liveRight) fun s₁ notRight _ r₁ ⟨live₁, valued₁⟩ => ?_
  refine Runs.bind (conjoins s₁ _ _ (valuation.live_of_reaches r₁ liveLeft) live₁)
    fun s₂ onlyLeft _ t₂ ⟨live₂, valued₂⟩ => ?_
  have r₂ := valuation.reaches_trans r₁ t₂
  refine Runs.bind (negates s₂ left (valuation.live_of_reaches r₂ liveLeft))
    fun s₃ notLeft _ t₃ ⟨live₃, valued₃⟩ => ?_
  have r₃ := valuation.reaches_trans r₂ t₃
  refine Runs.bind (conjoins s₃ _ _ live₃ (valuation.live_of_reaches r₃ liveRight))
    fun s₄ onlyRight _ t₄ ⟨live₄, valued₄⟩ => ?_
  have liveOnlyLeft := valuation.live_of_reaches (valuation.reaches_trans t₃ t₄) live₂
  refine (joins s₄ _ _ liveOnlyLeft live₄).weaken fun s₅ result t₅ ⟨live₅, valued₅⟩ =>
    ⟨live₅, fun consistent => ?_⟩
  have c₄ := valuation.consistent_of_reaches t₅ consistent
  have c₃ := valuation.consistent_of_reaches t₄ c₄
  have c₂ := valuation.consistent_of_reaches t₃ c₃
  have c₁ := valuation.consistent_of_reaches t₂ c₂
  rw [valued₅ consistent, valued₄ c₄, valued₃ c₃, valued₂ c₂, valued₁ c₁]
  cases valuation.value left <;> cases valuation.value right <;> rfl

/-! ## Conjunction and disjunction of a sequence -/

/-- A conjunction that ends at the constant false is not the value that the loop has reached, but has
the same meaning. -/
theorem computes_allFrom {constants : Constants V} {conj : V → V → Act σ V}
    (fixes : valuation.Fixes constants) (conjoins : valuation.Realizes .conj conj)
    {elements : List V} {state : σ} {result : V} (liveResult : valuation.Live state result)
    (live : ∀ element ∈ elements, valuation.Live state element) :
    valuation.Computes state (Constants.allFrom constants conj result elements)
      (valuation.value result && (elements.map valuation.value).all id) := by
  induction elements generalizing state result with
  | nil =>
      refine Computes.pure liveResult fun _ => ?_
      simp
  | cons element elements hypothesis =>
      rw [Constants.allFrom, List.map_cons, List.all_cons]
      by_cases certain : constants.isBot element = true
      · rw [if_pos certain]
        intro valid
        refine Computes.pure (fixes.live_bot state valid) (fun consistent => ?_) valid
        have isFalse := fixes.value_bot state valid consistent
        rw [(constants.isBot_iff element).1 certain, isFalse, id_eq, Bool.false_and, Bool.and_false]
      · rw [if_neg certain]
        have folded := (conjoins state result element liveResult
          (live element List.mem_cons_self)).bind
          (fun value => value && (elements.map valuation.value).all id)
          fun middle next _ reached liveNext => hypothesis liveNext fun other member =>
            valuation.live_of_reaches reached (live other (List.mem_cons_of_mem _ member))
        exact folded.congr (Bool.and_assoc _ _ _)

/-- Conjoining the elements one after the other tells whether all of them hold. -/
theorem RealizesAggregate.allFrom {constants : Constants V} {conj : V → V → Act σ V}
    (fixes : valuation.Fixes constants) (conjoins : valuation.Realizes .conj conj) :
    valuation.RealizesAggregate .all (Constants.allFrom constants conj constants.top) := by
  intro state elements live valid
  refine Runs.weaken (computes_allFrom fixes conjoins (fixes.live_top state valid) live)
    (fun next result reached ⟨liveResult, valued⟩ => ⟨liveResult, fun consistent => ?_⟩) valid
  rw [valued consistent, fixes.value_top state valid
    (valuation.consistent_of_reaches reached consistent), Bool.true_and]

/-- Joining on from an element tells whether it holds, or one of the others does.  The induction is on
these, and what was joined so far is the invariant. -/
theorem computes_anyFrom {constants : Constants V} {disj : V → V → Act σ V}
    (fixes : valuation.Fixes constants) (joins : valuation.Realizes .disj disj)
    {elements : List V} {state : σ} {result : V} (liveResult : valuation.Live state result)
    (live : ∀ element ∈ elements, valuation.Live state element) :
    valuation.Computes state (Constants.anyFrom constants disj result elements)
      (valuation.value result || (elements.map valuation.value).any id) := by
  induction elements generalizing state result with
  | nil =>
      refine Computes.pure liveResult fun _ => ?_
      simp
  | cons element elements hypothesis =>
      rw [Constants.anyFrom, List.map_cons, List.any_cons]
      by_cases certain : constants.isTop element = true
      · rw [if_pos certain]
        intro valid
        refine Computes.pure (fixes.live_top state valid) (fun consistent => ?_) valid
        have isTrue := fixes.value_top state valid consistent
        rw [(constants.isTop_iff element).1 certain, isTrue, id_eq, Bool.true_or, Bool.or_true]
      · rw [if_neg certain]
        have folded := (joins state result element liveResult
          (live element List.mem_cons_self)).bind
          (fun value => value || (elements.map valuation.value).any id)
          fun middle next _ reached liveNext => hypothesis liveNext fun other member =>
            valuation.live_of_reaches reached (live other (List.mem_cons_of_mem _ member))
        exact folded.congr (Bool.or_assoc _ _ _)

theorem RealizesAggregate.anyFrom {constants : Constants V} {disj : V → V → Act σ V}
    (fixes : valuation.Fixes constants) (joins : valuation.Realizes .disj disj) :
    valuation.RealizesAggregate .any (Constants.anyFrom constants disj constants.bot) := by
  intro state elements live valid
  refine Runs.weaken (computes_anyFrom fixes joins (fixes.live_bot state valid) live)
    (fun next result reached ⟨liveResult, valued⟩ => ⟨liveResult, fun consistent => ?_⟩) valid
  rw [valued consistent, fixes.value_bot state valid
    (valuation.consistent_of_reaches reached consistent), Bool.false_or]

/-! ## The algebra that inherits them all -/

section

variable {constants : Constants V} {neg : V → Act σ V} {conj : V → V → Act σ V}
  (fixes : valuation.Fixes constants) (negates : valuation.RealizesNeg neg)
  (conjoins : valuation.Realizes .conj conj)

include fixes negates conjoins

/-- Where negation and conjunction compute what they say, all other operations do. -/
theorem interprets_inherit : valuation.Interprets (BoolAlgebra.inherit constants neg conj) := by
  have joins := Realizes.disjOf negates conjoins
  have differs := Realizes.xorOf negates conjoins joins
  have compares := Realizes.iffOf negates differs
  have less := RealizesComparison.lexLtOf fixes negates conjoins joins compares
  refine ⟨fixes, fixes.lift, negates, fun connective => ?_, fun aggregate => ?_, fun comparison => ?_⟩
  · cases connective with
    | conj => exact conjoins
    | disj => exact joins
    | xor => exact differs
    | iff => exact compares
    | imp => exact Realizes.impOf negates joins
  · cases aggregate with
    | all => exact RealizesAggregate.allFrom fixes conjoins
    | any => exact RealizesAggregate.anyFrom fixes joins
    | parity => exact RealizesAggregate.parityFrom fixes differs
    | one => exact RealizesAggregate.oneOf fixes negates conjoins joins
    | many => exact RealizesAggregate.manyOf fixes conjoins joins
    | allEqual => exact RealizesAggregate.allEqualOf fixes conjoins compares
  · cases comparison with
    | lexLt => exact less
    | lexLe => exact RealizesComparison.lexLeOf negates less

end

/-! ## The meaning of each operation -/

/-- Between sequences of the same length the strict order is the order of the library. -/
theorem lexLess_eq {lefts rights : List Bool} (lengths : lefts.length = rights.length) :
    lexLess lefts rights = decide (lefts < rights) := by
  induction lefts generalizing rights with
  | nil =>
      cases rights with
      | nil => rfl
      | cons => cases lengths
  | cons left lefts hypothesis =>
      cases rights with
      | nil => cases lengths
      | cons right rights =>
          rw [lexLess, hypothesis (Nat.succ.inj lengths), Bool.eq_iff_iff, decide_eq_true_iff,
            List.cons_lt_cons_iff, Bool.lt_iff]
          cases left <;> cases right <;> simp

/-- A computation fails because of the values that it was given. -/
def Refuses (state : σ) (action : Act σ α) : Prop :=
  ∃ fault, (action.runOn state).1 = .error fault ∧ fault.category = .value

/-- A computation that runs through does not refuse its arguments. -/
theorem Runs.not_refuses {state : σ} {action : Act σ α} {Post : σ → α → Prop}
    (runs : valuation.Runs state action Post) (valid : valuation.Valid state) :
    ¬Refuses state action := by
  rintro ⟨fault, failed, _⟩
  obtain ⟨result, next, ran, _⟩ := runs valid
  rw [ran] at failed
  cases failed

theorem refuses_of_runOn {state next : σ} {action : Act σ α} {fault : Fault}
    (failed : action.runOn state = (.error fault, next)) (category : fault.category = .value) :
    Refuses state action :=
  ⟨fault, by rw [failed], category⟩

variable (valuation) in
/-- What the operations of an algebra other than negation and conjunction are, for all elements that
are live in a state: the connectives, the aggregates of a sequence and the lexicographic orders of two
sequences of the same length.  Equality of no elements and orders of sequences of different lengths
are refused, and nothing else is. -/
structure Derives (algebra : BoolAlgebra σ V) (state : σ) : Prop where
  disj : ∀ left right, valuation.Live state left → valuation.Live state right →
    valuation.Computes state (algebra.disj left right) (valuation.value left || valuation.value right)
  xor : ∀ left right, valuation.Live state left → valuation.Live state right →
    valuation.Computes state (algebra.xor left right) (valuation.value left != valuation.value right)
  iff : ∀ left right, valuation.Live state left → valuation.Live state right →
    valuation.Computes state (algebra.iff left right) (valuation.value left == valuation.value right)
  imp : ∀ left right, valuation.Live state left → valuation.Live state right →
    valuation.Computes state (algebra.imp left right)
      (!valuation.value left || valuation.value right)
  all : ∀ elements, (∀ element ∈ elements, valuation.Live state element) →
    valuation.Computes state (algebra.all elements)
      (decide (∀ element ∈ elements, valuation.value element = true))
  any : ∀ elements, (∀ element ∈ elements, valuation.Live state element) →
    valuation.Computes state (algebra.any elements)
      (decide (∃ element ∈ elements, valuation.value element = true))
  parity : ∀ elements, (∀ element ∈ elements, valuation.Live state element) →
    valuation.Computes state (algebra.parity elements)
      (decide (Odd (elements.countP valuation.value)))
  one : ∀ elements, (∀ element ∈ elements, valuation.Live state element) →
    valuation.Computes state (algebra.one elements)
      (decide (elements.countP valuation.value = 1))
  many : ∀ elements, (∀ element ∈ elements, valuation.Live state element) →
    valuation.Computes state (algebra.many elements)
      (decide (2 ≤ elements.countP valuation.value))
  allEqual : ∀ elements, (∀ element ∈ elements, valuation.Live state element) →
    (Refuses state (algebra.allEqual elements) ↔ elements = []) ∧
    (elements ≠ [] → valuation.Computes state (algebra.allEqual elements)
      (decide (∀ left ∈ elements, ∀ right ∈ elements, valuation.value left = valuation.value right)))
  lexLt : ∀ lefts rights, (∀ element ∈ lefts, valuation.Live state element) →
    (∀ element ∈ rights, valuation.Live state element) →
    (Refuses state (algebra.lexLt lefts rights) ↔ lefts.length ≠ rights.length) ∧
    (lefts.length = rights.length → valuation.Computes state (algebra.lexLt lefts rights)
      (decide (lefts.map valuation.value < rights.map valuation.value)))
  lexLe : ∀ lefts rights, (∀ element ∈ lefts, valuation.Live state element) →
    (∀ element ∈ rights, valuation.Live state element) →
    (Refuses state (algebra.lexLe lefts rights) ↔ lefts.length ≠ rights.length) ∧
    (lefts.length = rights.length → valuation.Computes state (algebra.lexLe lefts rights)
      (decide (lefts.map valuation.value ≤ rights.map valuation.value)))

theorem count_map_value (elements : List V) :
    (elements.map valuation.value).count true = elements.countP valuation.value := by
  rw [List.count, List.countP_map]
  exact List.countP_congr fun element _ => by simp

section

variable {algebra : BoolAlgebra σ V} (interprets : valuation.Interprets algebra) {state : σ}
  (valid : valuation.Valid state)

include interprets valid

/-- The equality of all elements is refused for none at all, and otherwise tells whether any two are equal.
-/
theorem Interprets.allEqual {elements : List V}
    (live : ∀ element ∈ elements, valuation.Live state element) :
    (Refuses state (algebra.allEqual elements) ↔ elements = []) ∧
      (elements ≠ [] → valuation.Computes state (algebra.allEqual elements)
        (decide (∀ left ∈ elements, ∀ right ∈ elements,
          valuation.value left = valuation.value right))) := by
  have realizes := interprets.aggregate .allEqual state elements live
  cases elements with
  | nil =>
      exact ⟨iff_of_true (refuses_of_runOn realizes rfl) rfl, fun nonempty => absurd rfl nonempty⟩
  | cons first elements =>
      refine ⟨iff_of_false (Runs.not_refuses realizes valid) (List.cons_ne_nil _ _), fun _ => ?_⟩
      refine Computes.congr ?_ realizes
      rw [Bool.eq_iff_iff, List.all_map, List.all_eq_true, decide_eq_true_iff]
      constructor
      · intro equal
        have toFirst : ∀ element ∈ first :: elements,
            valuation.value element = valuation.value first := fun element member => by
          rcases List.mem_cons.1 member with rfl | member
          · rfl
          · exact beq_iff_eq.1 (equal element member)
        exact fun left inLeft right inRight => (toFirst left inLeft).trans (toFirst right inRight).symm
      · exact fun equal element member =>
          beq_iff_eq.2 (equal element (List.mem_cons_of_mem _ member) first List.mem_cons_self)

/-- A comparison is refused for sequences of different lengths, and otherwise comes to its meaning. -/
theorem Interprets.compare_decided (comparison : Comparison) {lefts rights : List V}
    (liveLefts : ∀ element ∈ lefts, valuation.Live state element)
    (liveRights : ∀ element ∈ rights, valuation.Live state element) {value : Bool}
    (meaning : comparison.eval (lefts.map valuation.value) (rights.map valuation.value) =
      if lefts.length = rights.length then some value else none) :
    (Refuses state (algebra.compare comparison lefts rights) ↔ lefts.length ≠ rights.length) ∧
      (lefts.length = rights.length →
        valuation.Computes state (algebra.compare comparison lefts rights) value) := by
  have realizes := interprets.compare comparison state lefts rights liveLefts liveRights
  rw [meaning] at realizes
  by_cases lengths : lefts.length = rights.length
  · rw [if_pos lengths] at realizes
    exact ⟨iff_of_false (Runs.not_refuses realizes valid) (not_not_intro lengths), fun _ => realizes⟩
  · rw [if_neg lengths] at realizes
    refine ⟨iff_of_true (refuses_of_runOn realizes ?_) lengths, fun same => absurd same lengths⟩
    cases comparison <;> rfl

/-- An algebra whose operations compute what their names say derives what a reader expects. -/
theorem Interprets.derives : valuation.Derives algebra state where
  disj := interprets.connective .disj state
  xor := interprets.connective .xor state
  iff := interprets.connective .iff state
  imp := interprets.connective .imp state
  all := fun elements live => Computes.congr
    (by rw [Bool.eq_iff_iff]; simp) (interprets.aggregate .all state elements live)
  any := fun elements live => Computes.congr
    (by rw [Bool.eq_iff_iff]; simp) (interprets.aggregate .any state elements live)
  parity := fun elements live => Computes.congr
    (by rw [count_map_value, Bool.eq_iff_iff, beq_iff_eq, decide_eq_true_iff, Nat.odd_iff])
    (interprets.aggregate .parity state elements live)
  one := fun elements live => Computes.congr
    (by rw [count_map_value, Bool.eq_iff_iff, beq_iff_eq, decide_eq_true_iff])
    (interprets.aggregate .one state elements live)
  many := fun elements live => Computes.congr
    (by rw [count_map_value]) (interprets.aggregate .many state elements live)
  allEqual := fun _ live => interprets.allEqual valid live
  lexLt := fun lefts rights liveLefts liveRights =>
    interprets.compare_decided valid .lexLt liveLefts liveRights <| by
      simp only [Comparison.eval, List.length_map]
      split
      case isTrue lengths => rw [lexLess_eq (by simpa using lengths)]
      case isFalse => rfl
  lexLe := fun lefts rights liveLefts liveRights =>
    interprets.compare_decided valid .lexLe liveLefts liveRights <| by
      simp only [Comparison.eval, List.length_map, eq_comm (a := rights.length)]
      split
      case isTrue lengths =>
        rw [lexLess_eq (by simpa using lengths.symm), ← decide_not, decide_eq_decide.2 not_lt]
      case isFalse => rfl

end

end Valuation

/-! ## Two algebras that inherit their operations -/

namespace Circuit

variable (inputs : String → Bool) (outputs : Nat → Bool)

/-- The value of a node, for given values of the inputs and of the outputs of the gates. -/
def nodeValue : Node → Bool
  | .top => true
  | .bot => false
  | .leaf name => inputs name
  | .gate number => outputs number

/-- The value that a gate should have at its output. -/
def gateValue : Gate → Bool
  | .neg operand => !nodeValue inputs outputs operand
  | .conj left right => nodeValue inputs outputs left && nodeValue inputs outputs right

/-- A node may be used in a circuit if it is not the output of a gate that is still to be made. -/
def Offers (circuit : Circuit) : Node → Prop
  | .gate number => number ≤ circuit.gates.size
  | _ => True

/-- The outputs of the gates of a circuit are what they should be. -/
def Fits (circuit : Circuit) : Prop :=
  ∀ (index : Nat) (gate : Gate), circuit.gates[index]? = some gate →
    outputs (index + 1) = gateValue inputs outputs gate

/-- The reading of the nodes of a circuit for given values at all inputs and outputs. -/
def reading : Valuation Circuit (Value Node) where
  Valid := fun _ => True
  Reaches := fun circuit next => ∃ made, next.gates = circuit.gates ++ made
  Live := fun circuit value => ∃ node, value = .elem node ∧ Offers circuit node
  Consistent := Fits inputs outputs
  value := fun
    | .elem node => nodeValue inputs outputs node
    | _ => false
  reaches_refl := fun circuit => ⟨#[], Array.append_empty.symm⟩
  reaches_trans := fun ⟨made, isNext⟩ ⟨more, isLast⟩ =>
    ⟨made ++ more, by rw [isLast, isNext, Array.append_assoc]⟩
  live_of_reaches := by
    rintro circuit next value ⟨made, isNext⟩ ⟨node, isElem, offers⟩
    refine ⟨node, isElem, ?_⟩
    cases node with
    | gate number =>
        rw [Offers, isNext, Array.size_append]
        exact Nat.le_add_right_of_le offers
    | _ => trivial
  consistent_of_reaches := by
    rintro circuit next ⟨made, isNext⟩ fits index gate found
    have inside : index < circuit.gates.size := (Array.getElem?_eq_some_iff.1 found).1
    exact fits index gate (by rw [isNext, Array.getElem?_append_left inside, found])

variable {inputs outputs}

theorem fixes_constants : (reading inputs outputs).Fixes constants where
  live_bot := fun _ _ => ⟨.bot, rfl, trivial⟩
  live_top := fun _ _ => ⟨.top, rfl, trivial⟩
  value_bot := fun _ _ _ => rfl
  value_top := fun _ _ _ => rfl

/-- A gate that is made is the last one, and so its output is a new element. -/
theorem computes_record (circuit : Circuit) (gate : Gate) :
    (reading inputs outputs).Computes circuit (record gate) (gateValue inputs outputs gate) := by
  intro _
  refine ⟨.elem (.gate (circuit.gates.size + 1)),
    { circuit with gates := circuit.gates.push gate }, rfl, trivial, ⟨#[gate], ?_⟩,
    ⟨_, rfl, ?_⟩, fun fits => ?_⟩
  · rw [Array.append_singleton]
  · simp [Offers]
  · exact fits circuit.gates.size gate Array.getElem?_push_size

theorem negates_recordNeg : (reading inputs outputs).RealizesNeg recordNeg := by
  rintro circuit _ ⟨node, rfl, _⟩
  exact computes_record circuit (.neg node)

theorem conjoins_recordConj : (reading inputs outputs).Realizes .conj recordConj := by
  rintro circuit _ _ ⟨left, rfl, _⟩ ⟨right, rfl, _⟩
  exact computes_record circuit (.conj left right)

end Circuit

namespace Truth

variable {σ V : Type} [TruthValued V]

/-- Elements that count as true or false may always be used, and are read as that. -/
def reading : Valuation σ V where
  Valid := fun _ => True
  Reaches := fun _ _ => True
  Live := fun _ _ => True
  Consistent := fun _ => True
  value := TruthValued.truth
  reaches_refl := fun _ => trivial
  reaches_trans := fun _ _ => trivial
  live_of_reaches := fun _ _ => trivial
  consistent_of_reaches := fun _ _ => trivial

theorem fixes_constants : (reading : Valuation σ V).Fixes TruthValued.constants where
  live_bot := fun _ _ => trivial
  live_top := fun _ _ => trivial
  value_bot := fun _ _ _ => TruthValued.truth_bot
  value_top := fun _ _ _ => TruthValued.truth_top

theorem negates_not : (reading : Valuation σ V).RealizesNeg
    fun element => pure (ofBool !TruthValued.truth element) := by
  intro state element _
  exact Valuation.Computes.pure trivial fun _ => truth_ofBool _

/-- A conjunction may be one of its operands, which need not be a constant. -/
theorem conjoins_operand : (reading : Valuation σ V).Realizes .conj
    fun left right => pure (if TruthValued.truth left then right else left) := by
  intro state left right _ _
  refine Valuation.Computes.pure trivial fun _ => ?_
  change TruthValued.truth (if TruthValued.truth left then right else left) =
    (TruthValued.truth left && TruthValued.truth right)
  cases isTrue : TruthValued.truth left with
  | false => rw [if_neg Bool.false_ne_true, isTrue, Bool.false_and]
  | true => rw [if_pos rfl, Bool.true_and]

end Truth

namespace Valuation

variable {σ V : Type} {valuation : Valuation σ V}

/-- Whatever elements negation and conjunction answer with, fresh ones, their operands or constants, and
whatever they do to the state: as long as a reading of the elements agrees with these two and with
the constants, it agrees with all operations that an algebra inherits. -/
theorem inherit_derives {constants : Constants V} {neg : V → Act σ V} {conj : V → V → Act σ V}
    (fixes : valuation.Fixes constants) (negates : valuation.RealizesNeg neg)
    (conjoins : valuation.Realizes .conj conj) {state : σ} (valid : valuation.Valid state) :
    valuation.Derives (BoolAlgebra.inherit constants neg conj) state :=
  (interprets_inherit fixes negates conjoins).derives valid

/-- The circuit of a disjunction of two inputs, where the first is true and the second is false. -/
def disjunctionOfInputs : Circuit where
  gates := #[.neg (.leaf "a"), .neg (.leaf "b"), .conj (.gate 1) (.gate 2), .neg (.gate 3)]

/-- Fresh elements at every call, and operands as answers: the disjunction of two inputs is the fourth
gate of a circuit, whose value is true, and an algebra of data has values that are true without being
the constant. -/
theorem inherit_derives_circuit_and_data :
    (Circuit.reading (· == "a") fun number => number == 2 || number == 4).Derives Circuit.free {} ∧
      (Circuit.free.disj (.elem (.leaf "a")) (.elem (.leaf "b"))).runOn {} =
        (.ok (.elem (.gate 4)), disjunctionOfInputs) ∧
      Circuit.Fits (· == "a") (fun number => number == 2 || number == 4) disjunctionOfInputs ∧
      (Truth.reading : Valuation Journal Datum).Derives Truth.minimal #[] := by
  refine ⟨inherit_derives Circuit.fixes_constants Circuit.negates_recordNeg
    Circuit.conjoins_recordConj trivial, rfl, ?_,
    inherit_derives Truth.fixes_constants Truth.negates_not Truth.conjoins_operand trivial⟩
  intro index gate found
  have inside : index < 4 := (Array.getElem?_eq_some_iff.1 found).1
  interval_cases index <;> cases found <;> rfl

end Valuation

end TensorLogic
