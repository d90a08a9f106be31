/-
Module: TensorLogic.Proofs.Algebra.Valuation
Purpose: The inherited operations of a Boolean algebra compute what their names say, whatever the
  algebra does to its state.
Main exports: Valuation, Valuation.Runs, Valuation.Computes, Valuation.Realizes,
  Valuation.RealizesAggregate, Valuation.RealizesComparison, Valuation.Interprets
-/
import TensorLogic.Algebra.Operation
import TensorLogic.Proofs.Effect.Run

namespace TensorLogic

/-- The fault of a comparison of sequences with these different lengths.  The second comparison is the
first one with its operands exchanged. -/
def Comparison.lengthFault (comparison : Comparison) (left right : Nat) : Fault :=
  match comparison with
  | lexLt => .lengthsDiffer left right
  | lexLe => .lengthsDiffer right left

/-- A reading of the elements of an algebra as truth values.  An element may be used in a state only
if it is live there, and what is said about values need only hold in consistent states: a state that
records contradictory constraints gives its elements no meaning.  Elements stay live, and a state that
was reached can only be consistent if every state before it was. -/
structure Valuation (σ V : Type) where
  Valid : σ → Prop
  Reaches : σ → σ → Prop
  Live : σ → V → Prop
  Consistent : σ → Prop
  value : V → Bool
  reaches_refl : ∀ state, Reaches state state
  reaches_trans : ∀ {first second third}, Reaches first second → Reaches second third →
    Reaches first third
  live_of_reaches : ∀ {state next element}, Reaches state next → Live state element →
    Live next element
  consistent_of_reaches : ∀ {state next}, Reaches state next → Consistent next → Consistent state

namespace Valuation

variable {σ V α β : Type} (valuation : Valuation σ V)

/-- A computation ends without a fault, and its result and the state it leaves are as claimed. -/
def Runs (state : σ) (action : Act σ α) (Post : σ → α → Prop) : Prop :=
  valuation.Valid state → ∃ result next, action.runOn state = (.ok result, next) ∧
    valuation.Valid next ∧ valuation.Reaches state next ∧ Post next result

/-- A computation ends with a live element of the given value. -/
def Computes (state : σ) (action : Act σ V) (value : Bool) : Prop :=
  valuation.Runs state action fun next result =>
    valuation.Live next result ∧ (valuation.Consistent next → valuation.value result = value)

variable {valuation}

theorem Runs.pure {state : σ} {value : α} {Post : σ → α → Prop} (post : Post state value) :
    valuation.Runs state (pure value) Post := by
  intro valid
  exact ⟨value, state, rfl, valid, valuation.reaches_refl state, post⟩

/-- Computations that take turns run through where each does from the state that it is handed. -/
theorem Runs.bind {state : σ} {action : Act σ α} {next : α → Act σ β} {Mid : σ → α → Prop}
    {Post : σ → β → Prop} (first : valuation.Runs state action Mid)
    (rest : ∀ middle result, valuation.Valid middle → valuation.Reaches state middle →
      Mid middle result → valuation.Runs middle (next result) Post) :
    valuation.Runs state (action >>= next) Post := by
  intro valid
  obtain ⟨result, middle, ran, validMiddle, reached, mid⟩ := first valid
  obtain ⟨value, last, ranRest, validLast, reachedLast, post⟩ :=
    rest middle result validMiddle reached mid validMiddle
  refine ⟨value, last, ?_, validLast, valuation.reaches_trans reached reachedLast, post⟩
  rw [Act.runOn_bind_ok ran, ranRest]

/-- What is known about the end of a run may be weakened, given that the end is reached. -/
theorem Runs.weaken {state : σ} {action : Act σ α} {Post Other : σ → α → Prop}
    (runs : valuation.Runs state action Post)
    (weaker : ∀ next result, valuation.Reaches state next → Post next result →
      Other next result) :
    valuation.Runs state action Other := by
  intro valid
  obtain ⟨result, next, ran, validNext, reached, post⟩ := runs valid
  exact ⟨result, next, ran, validNext, reached, weaker next result reached post⟩

/-- Handing back a live element computes its value. -/
theorem Computes.pure {state : σ} {element : V} {value : Bool}
    (live : valuation.Live state element)
    (valued : valuation.Consistent state → valuation.value element = value) :
    valuation.Computes state (pure element) value :=
  Runs.pure ⟨live, valued⟩

/-- The value of a step may be used by the next one, although it is only known where the states are
consistent. -/
theorem Computes.bind {state : σ} {action : Act σ V} {next : V → Act σ V} {value : Bool}
    (meaning : Bool → Bool) (first : valuation.Computes state action value)
    (rest : ∀ middle element, valuation.Valid middle → valuation.Reaches state middle →
      valuation.Live middle element →
        valuation.Computes middle (next element) (meaning (valuation.value element))) :
    valuation.Computes state (action >>= next) (meaning value) := by
  intro valid
  obtain ⟨element, middle, ran, validMiddle, reached, live, valued⟩ := first valid
  obtain ⟨result, last, ranRest, validLast, reachedLast, liveResult, valuedResult⟩ :=
    rest middle element validMiddle reached live validMiddle
  refine ⟨result, last, ?_, validLast, valuation.reaches_trans reached reachedLast, liveResult, ?_⟩
  · rw [Act.runOn_bind_ok ran, ranRest]
  · intro consistent
    rw [valuedResult consistent, valued (valuation.consistent_of_reaches reachedLast consistent)]

theorem Computes.congr {state : σ} {action : Act σ V} {value other : Bool} (same : value = other)
    (computes : valuation.Computes state action value) :
    valuation.Computes state action other :=
  same ▸ computes

variable (valuation)

/-- The constants of an algebra are live everywhere and have the values that they stand for. -/
structure Fixes (constants : Constants V) : Prop where
  live_bot : ∀ state, valuation.Valid state → valuation.Live state constants.bot
  live_top : ∀ state, valuation.Valid state → valuation.Live state constants.top
  value_bot : ∀ state, valuation.Valid state → valuation.Consistent state →
    valuation.value constants.bot = false
  value_top : ∀ state, valuation.Valid state → valuation.Consistent state →
    valuation.value constants.top = true

/-- What is lifted from truth values is live everywhere and has the value that was lifted. -/
def RealizesLift (lift : Bool → V) : Prop :=
  ∀ state truth, valuation.Valid state → valuation.Live state (lift truth) ∧
    (valuation.Consistent state → valuation.value (lift truth) = truth)

/-- An operation on an element computes the negation. -/
def RealizesNeg (neg : V → Act σ V) : Prop :=
  ∀ state element, valuation.Live state element →
    valuation.Computes state (neg element) (!valuation.value element)

/-- An operation on two elements computes a connective. -/
def Realizes (connective : Connective) (operation : V → V → Act σ V) : Prop :=
  ∀ state left right, valuation.Live state left → valuation.Live state right →
    valuation.Computes state (operation left right)
      (connective.eval (valuation.value left) (valuation.value right))

/-- An operation on a sequence computes an aggregate wherever that has a value, and fails where it has
none. -/
def RealizesAggregate (aggregate : Aggregate) (operation : List V → Act σ V) : Prop :=
  ∀ state elements, (∀ element ∈ elements, valuation.Live state element) →
    match aggregate.eval (elements.map valuation.value) with
    | some value => valuation.Computes state (operation elements) value
    | none => (operation elements).runOn state = (.error .emptyEquality, state)

/-- An operation on two sequences computes a comparison, and fails where their lengths differ. -/
def RealizesComparison (comparison : Comparison) (operation : List V → List V → Act σ V) : Prop :=
  ∀ state lefts rights, (∀ element ∈ lefts, valuation.Live state element) →
    (∀ element ∈ rights, valuation.Live state element) →
      match comparison.eval (lefts.map valuation.value) (rights.map valuation.value) with
      | some value => valuation.Computes state (operation lefts rights) value
      | none => (operation lefts rights).runOn state = 
          (.error (comparison.lengthFault lefts.length rights.length), state)

variable {valuation}

/-- The inherited way to lift truth values gives the constants for them. -/
theorem Fixes.lift {constants : Constants V} (fixes : valuation.Fixes constants) :
    valuation.RealizesLift constants.lift := by
  intro state truth valid
  cases truth with
  | false => exact ⟨fixes.live_bot state valid, fixes.value_bot state valid⟩
  | true => exact ⟨fixes.live_top state valid, fixes.value_top state valid⟩

/-! ## Operations on two elements -/

/-- The negation of an exclusive disjunction is an equivalence. -/
theorem Realizes.iffOf {neg : V → Act σ V} {xor : V → V → Act σ V}
    (negates : valuation.RealizesNeg neg) (differs : valuation.Realizes .xor xor) :
    valuation.Realizes .iff (Constants.iffOf neg xor) := by
  intro state left right liveLeft liveRight
  have inverted : valuation.Computes state (Constants.iffOf neg xor left right)
      (!Connective.xor.eval (valuation.value left) (valuation.value right)) :=
    (differs state left right liveLeft liveRight).bind (fun value => !value)
      fun middle element _ _ live => negates middle element live
  refine inverted.congr ?_
  cases valuation.value left <;> cases valuation.value right <;> rfl

/-- The disjunction with the negation of the left side is an implication. -/
theorem Realizes.impOf {neg : V → Act σ V} {disj : V → V → Act σ V}
    (negates : valuation.RealizesNeg neg) (joins : valuation.Realizes .disj disj) :
    valuation.Realizes .imp (Constants.impOf neg disj) := by
  intro state left right liveLeft liveRight
  exact (negates state left liveLeft).bind
    (fun value => value || valuation.value right)
    fun middle element _ reached live =>
      joins middle element right live (valuation.live_of_reaches reached liveRight)

/-! ## Operations on a sequence -/

theorem isOdd_succ (number : Nat) : ((number + 1) % 2 == 1) = !(number % 2 == 1) := by
  rcases Nat.mod_two_eq_zero_or_one number with even | odd
  · simp [Nat.add_mod, even]
  · simp [Nat.add_mod, odd]

/-- Counting on from an element toggles its value at each element that holds. -/
theorem computes_parityFrom {xor : V → V → Act σ V} (differs : valuation.Realizes .xor xor)
    {elements : List V} {state : σ} {result : V} (liveResult : valuation.Live state result)
    (live : ∀ element ∈ elements, valuation.Live state element) :
    valuation.Computes state (Constants.parityFrom xor result elements)
      (valuation.value result != ((elements.map valuation.value).count true % 2 == 1)) := by
  induction elements generalizing state result with
  | nil =>
      refine Computes.pure liveResult fun _ => ?_
      cases valuation.value result <;> rfl
  | cons element elements hypothesis =>
      have liveElement := live element List.mem_cons_self
      have folded : valuation.Computes state
          (Constants.parityFrom xor result (element :: elements))
          (Connective.xor.eval (valuation.value result) (valuation.value element)
            != ((elements.map valuation.value).count true % 2 == 1)) :=
        (differs state result element liveResult liveElement).bind
          (fun value => value != ((elements.map valuation.value).count true % 2 == 1))
          fun middle next _ reached liveNext =>
            hypothesis liveNext fun other member =>
              valuation.live_of_reaches reached (live other (List.mem_cons_of_mem _ member))
      refine folded.congr ?_
      generalize valuation.value result = before
      rw [List.map_cons, List.count_cons]
      generalize (elements.map valuation.value).count true = number
      cases before <;> cases valuation.value element <;> simp [Connective.eval, isOdd_succ]

/-- Counting on from the false constant tells whether an odd number of elements holds. -/
theorem RealizesAggregate.parityFrom {constants : Constants V} {xor : V → V → Act σ V}
    (fixes : valuation.Fixes constants) (differs : valuation.Realizes .xor xor) :
    valuation.RealizesAggregate .parity (Constants.parityFrom xor constants.bot) := by
  intro state elements live valid
  have computes := computes_parityFrom differs (fixes.live_bot state valid) live
  obtain ⟨result, next, ran, validNext, reached, liveResult, valued⟩ := computes valid
  refine ⟨result, next, ran, validNext, reached, liveResult, fun consistent => ?_⟩
  rw [valued consistent, fixes.value_bot state valid
    (valuation.consistent_of_reaches reached consistent), Bool.false_bne]

/-- Whether one and whether two of some truth values are true, given what is known of others. -/
def countToTwo (seen many : Bool) : List Bool → Bool × Bool
  | [] => (seen, many)
  | value :: values => countToTwo (seen || value) (many || (seen && value)) values

/-- What counting up to two has seen in the end is whether one element holds, and whether two do. -/
theorem countToTwo_eq (seen many : Bool) (values : List Bool) :
    countToTwo seen many values =
      (seen || 1 ≤ values.count true,
        many || (seen && 1 ≤ values.count true) || 2 ≤ values.count true) := by
  induction values generalizing seen many with
  | nil => simp [countToTwo]
  | cons value values hypothesis =>
      rw [countToTwo, hypothesis, List.count_cons]
      generalize values.count true = number
      cases seen <;> cases many <;> cases value <;> simp
      omega

variable (valuation) in
/-- What a tally is worth: that it was given up says that two elements are true. -/
def TallyMeans (state : σ) (counted : Bool × Bool) : Option (Constants.Tally V) → Prop
  | none => valuation.Consistent state → counted.2 = true
  | some tally => valuation.Live state tally.seen ∧ valuation.Live state tally.many ∧
      (valuation.Consistent state →
        (valuation.value tally.seen, valuation.value tally.many) = counted)

theorem TallyMeans.congr {state : σ} {counted other : Bool × Bool}
    {found : Option (Constants.Tally V)}
    (means : TallyMeans valuation state counted found)
    (same : valuation.Consistent state → counted = other) :
    TallyMeans valuation state other found := by
  cases found with
  | none => exact fun consistent => same consistent ▸ means consistent
  | some tally =>
      exact ⟨means.1, means.2.1, fun consistent => same consistent ▸ means.2.2 consistent⟩

/-- A tally means at each element what has been counted so far.  This is the invariant of the loop, and it
holds where the tally stops early as well. -/
theorem runs_tallyFrom {constants : Constants V} {conj disj : V → V → Act σ V}
    (fixes : valuation.Fixes constants) (conjoins : valuation.Realizes .conj conj)
    (joins : valuation.Realizes .disj disj) {elements : List V} {state : σ}
    {tally : Constants.Tally V} (liveSeen : valuation.Live state tally.seen)
    (liveMany : valuation.Live state tally.many)
    (live : ∀ element ∈ elements, valuation.Live state element) :
    valuation.Runs state (Constants.tallyFrom constants conj disj tally elements)
      fun next found => TallyMeans valuation next
        (countToTwo (valuation.value tally.seen) (valuation.value tally.many)
          (elements.map valuation.value)) found := by
  induction elements generalizing state tally with
  | nil => exact Runs.pure ⟨liveSeen, liveMany, fun _ => rfl⟩
  | cons element elements hypothesis =>
      have liveElement := live element List.mem_cons_self
      refine Runs.bind (conjoins state _ _ liveSeen liveElement)
        fun first both _ reachedFirst ⟨liveBoth, valuedBoth⟩ => ?_
      refine Runs.bind (joins first _ _ (valuation.live_of_reaches reachedFirst liveMany) liveBoth)
        fun second many validSecond reachedSecond ⟨liveNewMany, valuedMany⟩ => ?_
      have reached := valuation.reaches_trans reachedFirst reachedSecond
      have valued : valuation.Consistent second → valuation.value many =
          (valuation.value tally.many || (valuation.value tally.seen && valuation.value element)) :=
        fun consistent => by
          rw [valuedMany consistent,
            valuedBoth (valuation.consistent_of_reaches reachedSecond consistent)]
          rfl
      by_cases certain : constants.isTop many = true
      · rw [if_pos certain]
        refine Runs.pure fun consistent => ?_
        have isTop : valuation.value many = true := by
          rw [(constants.isTop_iff many).1 certain]
          exact fixes.value_top second validSecond consistent
        rw [List.map_cons, countToTwo, ← valued consistent, isTop, countToTwo_eq]
        simp
      · rw [if_neg certain]
        refine Runs.bind (joins second _ _ (valuation.live_of_reaches reached liveSeen)
          (valuation.live_of_reaches reached liveElement))
          fun third seen _ reachedThird ⟨liveNewSeen, valuedSeen⟩ => ?_
        have reachedAll := valuation.reaches_trans reached reachedThird
        have counted := @hypothesis third ⟨seen, many⟩ liveNewSeen
          (valuation.live_of_reaches reachedThird liveNewMany)
          fun other member => valuation.live_of_reaches reachedAll
            (live other (List.mem_cons_of_mem _ member))
        refine counted.weaken fun last found reachedLast means => ?_
        refine means.congr fun consistent => ?_
        have consistentThird := valuation.consistent_of_reaches reachedLast consistent
        have consistentSecond := valuation.consistent_of_reaches reachedThird consistentThird
        simp only [valuedSeen consistentThird, valued consistentSecond]
        rfl

/-- A tally from the start tells whether at least one element holds, and whether at least two do. -/
theorem runs_tally {constants : Constants V} {conj disj : V → V → Act σ V}
    (fixes : valuation.Fixes constants) (conjoins : valuation.Realizes .conj conj)
    (joins : valuation.Realizes .disj disj) {elements : List V} {state : σ}
    (live : ∀ element ∈ elements, valuation.Live state element) :
    valuation.Runs state (Constants.tallyFrom constants conj disj constants.noTally elements)
      fun next found => TallyMeans valuation next
        (decide (1 ≤ (elements.map valuation.value).count true),
          decide (2 ≤ (elements.map valuation.value).count true)) found := by
  intro valid
  have liveBot := fixes.live_bot state valid
  have counted : valuation.Runs state
      (Constants.tallyFrom constants conj disj constants.noTally elements)
      fun next found => TallyMeans valuation next
        (countToTwo (valuation.value constants.bot) (valuation.value constants.bot)
          (elements.map valuation.value)) found :=
    runs_tallyFrom fixes conjoins joins liveBot liveBot live
  refine counted.weaken (fun next found reached means => means.congr fun consistent => ?_) valid
  have isBot : valuation.value constants.bot = false :=
    fixes.value_bot state valid (valuation.consistent_of_reaches reached consistent)
  simp only [isBot, countToTwo_eq, Bool.false_or, Bool.false_and]

/-- The inherited aggregate for exactly one element counts up to two, and asks for one but not two. -/
theorem RealizesAggregate.oneOf {constants : Constants V} {neg : V → Act σ V}
    {conj disj : V → V → Act σ V} (fixes : valuation.Fixes constants)
    (negates : valuation.RealizesNeg neg) (conjoins : valuation.Realizes .conj conj)
    (joins : valuation.Realizes .disj disj) :
    valuation.RealizesAggregate .one (Constants.oneOf constants neg conj disj) := by
  intro state elements live
  refine Runs.bind (runs_tally fixes conjoins joins live)
    fun middle found validMiddle _ means => ?_
  have exactly : ((elements.map valuation.value).count true == 1) =
      (decide (1 ≤ (elements.map valuation.value).count true) &&
        !decide (2 ≤ (elements.map valuation.value).count true)) := by
    generalize (elements.map valuation.value).count true = number
    rw [Bool.eq_iff_iff]
    simp
    omega
  rw [exactly]
  cases found with
  | none =>
      refine Computes.pure (fixes.live_bot middle validMiddle) fun consistent => ?_
      have two : decide (2 ≤ (elements.map valuation.value).count true) = true := means consistent
      rw [fixes.value_bot middle validMiddle consistent, two, Bool.not_true, Bool.and_false]
  | some tally =>
      obtain ⟨liveSeen, liveMany, valued⟩ := means
      have computes := (negates middle tally.many liveMany).bind
        (fun value => valuation.value tally.seen && value)
        fun last result _ reached liveResult =>
          conjoins last tally.seen result (valuation.live_of_reaches reached liveSeen) liveResult
      refine Runs.weaken computes fun last result reached ⟨liveResult, valuedResult⟩ =>
        ⟨liveResult, fun consistent => ?_⟩
      have counted := valued (valuation.consistent_of_reaches reached consistent)
      simp only [Prod.mk.injEq] at counted
      rw [valuedResult consistent, counted.1, counted.2]

/-- The inherited aggregate for several elements counts up to two. -/
theorem RealizesAggregate.manyOf {constants : Constants V} {conj disj : V → V → Act σ V}
    (fixes : valuation.Fixes constants) (conjoins : valuation.Realizes .conj conj)
    (joins : valuation.Realizes .disj disj) :
    valuation.RealizesAggregate .many (Constants.manyOf constants conj disj) := by
  intro state elements live
  refine Runs.bind (runs_tally fixes conjoins joins live)
    fun middle found validMiddle _ means => ?_
  cases found with
  | none =>
      refine Computes.pure (fixes.live_top middle validMiddle) fun consistent => ?_
      rw [fixes.value_top middle validMiddle consistent]
      exact (means consistent).symm
  | some tally =>
      obtain ⟨_, liveMany, valued⟩ := means
      refine Computes.pure liveMany fun consistent => ?_
      have counted := valued consistent
      simp only [Prod.mk.injEq] at counted
      exact counted.2

/-- Comparing on tells whether the elements before were equal and the others are equal to the first. -/
theorem computes_allEqualFrom {constants : Constants V} {conj iff : V → V → Act σ V}
    (fixes : valuation.Fixes constants) (conjoins : valuation.Realizes .conj conj)
    (compares : valuation.Realizes .iff iff) {elements : List V} {state : σ} {first result : V}
    (liveFirst : valuation.Live state first) (liveResult : valuation.Live state result)
    (live : ∀ element ∈ elements, valuation.Live state element) :
    valuation.Computes state (Constants.allEqualFrom constants conj iff first result elements)
      (valuation.value result &&
        (elements.map valuation.value).all (· == valuation.value first)) := by
  induction elements generalizing state result with
  | nil =>
      refine Computes.pure liveResult fun _ => ?_
      simp
  | cons element elements hypothesis =>
      have liveElement := live element List.mem_cons_self
      have folded : valuation.Computes state
          (Constants.allEqualFrom constants conj iff first result (element :: elements))
          (valuation.value result &&
            Connective.iff.eval (valuation.value first) (valuation.value element) &&
            (elements.map valuation.value).all (· == valuation.value first)) :=
        (compares state first element liveFirst liveElement).bind
          (fun equal => valuation.value result && equal &&
            (elements.map valuation.value).all (· == valuation.value first))
          fun middle equal _ reached liveEqual =>
            (conjoins middle result equal (valuation.live_of_reaches reached liveResult)
              liveEqual).bind
              (fun next => next &&
                (elements.map valuation.value).all (· == valuation.value first))
              fun last next validLast reachedLast liveNext => by
                have reachedAll := valuation.reaches_trans reached reachedLast
                by_cases certain : constants.isBot next = true
                · rw [if_pos certain]
                  refine Computes.pure liveNext fun consistent => ?_
                  rw [(constants.isBot_iff next).1 certain,
                    fixes.value_bot last validLast consistent, Bool.false_and]
                · rw [if_neg certain]
                  exact hypothesis (valuation.live_of_reaches reachedAll liveFirst) liveNext
                    fun other member => valuation.live_of_reaches reachedAll
                      (live other (List.mem_cons_of_mem _ member))
      refine folded.congr ?_
      rw [List.map_cons, List.all_cons, ← Bool.and_assoc]
      congr 2
      cases valuation.value first <;> cases valuation.value element <;> rfl

/-- The inherited equality of all elements compares each of them with the first one. -/
theorem RealizesAggregate.allEqualOf {constants : Constants V} {conj iff : V → V → Act σ V}
    (fixes : valuation.Fixes constants) (conjoins : valuation.Realizes .conj conj)
    (compares : valuation.Realizes .iff iff) :
    valuation.RealizesAggregate .allEqual (Constants.allEqualOf constants conj iff) := by
  intro state elements live
  cases elements with
  | nil => rfl
  | cons first elements =>
      intro valid
      have computes := computes_allEqualFrom fixes conjoins compares (live first List.mem_cons_self)
        (fixes.live_top state valid) fun other member => live other (List.mem_cons_of_mem _ member)
      refine Runs.weaken computes (fun next result reached ⟨liveResult, valued⟩ =>
        ⟨liveResult, fun consistent => ?_⟩) valid
      rw [valued consistent, fixes.value_top state valid
        (valuation.consistent_of_reaches reached consistent), Bool.true_and]

/-! ## Comparisons of two sequences -/

/-- The positions already looked at, with one more: whether the left sequence is less, and whether the
sequences are equal. -/
theorem runs_lexLtStep {neg : V → Act σ V} {conj disj iff : V → V → Act σ V}
    (negates : valuation.RealizesNeg neg) (conjoins : valuation.Realizes .conj conj)
    (joins : valuation.Realizes .disj disj) (compares : valuation.Realizes .iff iff)
    {state : σ} {less equal left right : V} {next : V → V → Act σ α} {Post : σ → α → Prop}
    (liveLess : valuation.Live state less) (liveEqual : valuation.Live state equal)
    (liveLeft : valuation.Live state left) (liveRight : valuation.Live state right)
    (rest : ∀ last newLess newEqual, valuation.Valid last → valuation.Reaches state last →
      valuation.Live last newLess → valuation.Live last newEqual →
      (valuation.Consistent last →
        valuation.value newLess = (valuation.value less || (valuation.value equal &&
          (!valuation.value left && valuation.value right))) ∧
        valuation.value newEqual = (valuation.value equal &&
          (valuation.value left == valuation.value right))) →
      valuation.Runs last (next newLess newEqual) Post) :
    valuation.Runs state
      (do
        let newLess ← disj less (← conj equal (← conj (← neg left) right))
        let newEqual ← conj equal (← iff left right)
        next newLess newEqual) Post := by
  refine Runs.bind (negates state left liveLeft) fun s₁ notLeft _ r₁ ⟨live₁, valued₁⟩ => ?_
  refine Runs.bind (conjoins s₁ _ _ live₁ (valuation.live_of_reaches r₁ liveRight))
    fun s₂ onlyRight _ t₂ ⟨live₂, valued₂⟩ => ?_
  have r₂ := valuation.reaches_trans r₁ t₂
  refine Runs.bind (conjoins s₂ _ _ (valuation.live_of_reaches r₂ liveEqual) live₂)
    fun s₃ decides _ t₃ ⟨live₃, valued₃⟩ => ?_
  have r₃ := valuation.reaches_trans r₂ t₃
  refine Runs.bind (joins s₃ _ _ (valuation.live_of_reaches r₃ liveLess) live₃)
    fun s₄ newLess _ t₄ ⟨live₄, valued₄⟩ => ?_
  have r₄ := valuation.reaches_trans r₃ t₄
  refine Runs.bind (compares s₄ _ _ (valuation.live_of_reaches r₄ liveLeft)
    (valuation.live_of_reaches r₄ liveRight)) fun s₅ same _ t₅ ⟨live₅, valued₅⟩ => ?_
  have r₅ := valuation.reaches_trans r₄ t₅
  refine Runs.bind (conjoins s₅ _ _ (valuation.live_of_reaches r₅ liveEqual) live₅)
    fun s₆ newEqual valid₆ t₆ ⟨live₆, valued₆⟩ => ?_
  refine rest s₆ newLess newEqual valid₆ (valuation.reaches_trans r₅ t₆)
    (valuation.live_of_reaches (valuation.reaches_trans t₅ t₆) live₄) live₆ fun consistent => ?_
  have c₅ := valuation.consistent_of_reaches t₆ consistent
  have c₄ := valuation.consistent_of_reaches t₅ c₅
  have c₃ := valuation.consistent_of_reaches t₄ c₄
  have c₂ := valuation.consistent_of_reaches t₃ c₃
  have c₁ := valuation.consistent_of_reaches t₂ c₂
  rw [valued₄ c₄, valued₃ c₃, valued₂ c₂, valued₁ c₁, valued₆ consistent, valued₅ c₅]
  exact ⟨rfl, rfl⟩

/-- Comparing on tells whether the sequences before were in order, or were equal and the others are in
order. -/
theorem computes_lexLtFrom {constants : Constants V} {neg : V → Act σ V}
    {conj disj iff : V → V → Act σ V} (fixes : valuation.Fixes constants)
    (negates : valuation.RealizesNeg neg) (conjoins : valuation.Realizes .conj conj)
    (joins : valuation.Realizes .disj disj) (compares : valuation.Realizes .iff iff)
    {lefts rights : List V} {state : σ} {less equal : V}
    (liveLess : valuation.Live state less) (liveEqual : valuation.Live state equal)
    (liveLefts : ∀ element ∈ lefts, valuation.Live state element)
    (liveRights : ∀ element ∈ rights, valuation.Live state element) :
    valuation.Computes state
      (Constants.lexLtFrom constants neg conj disj iff less equal lefts rights)
      (valuation.value less || (valuation.value equal &&
        lexLess (lefts.map valuation.value) (rights.map valuation.value))) := by
  induction lefts generalizing rights state less equal with
  | nil =>
      refine Computes.pure liveLess fun _ => ?_
      simp [lexLess]
  | cons left lefts hypothesis =>
      cases rights with
      | nil =>
          refine Computes.pure liveLess fun _ => ?_
          simp [lexLess]
      | cons right rights =>
          refine runs_lexLtStep negates conjoins joins compares liveLess liveEqual
            (liveLefts left List.mem_cons_self) (liveRights right List.mem_cons_self)
            fun last newLess newEqual validLast reached liveNewLess liveNewEqual valued => ?_
          by_cases certain : constants.isBot newEqual = true
          · rw [if_pos certain]
            refine Computes.pure liveNewLess fun consistent => ?_
            have isBot : valuation.value newEqual = false := by
              rw [(constants.isBot_iff newEqual).1 certain]
              exact fixes.value_bot last validLast consistent
            obtain ⟨valuedLess, valuedEqual⟩ := valued consistent
            rw [valuedEqual] at isBot
            rw [valuedLess, List.map_cons, List.map_cons, lexLess]
            revert isBot
            cases valuation.value less <;> cases valuation.value equal <;>
              cases valuation.value left <;> cases valuation.value right <;> simp
          · rw [if_neg certain]
            refine Runs.weaken (hypothesis liveNewLess liveNewEqual
              (fun other member => valuation.live_of_reaches reached
                (liveLefts other (List.mem_cons_of_mem _ member)))
              fun other member => valuation.live_of_reaches reached
                (liveRights other (List.mem_cons_of_mem _ member)))
              fun final result reachedFinal ⟨liveResult, valuedResult⟩ =>
                ⟨liveResult, fun consistent => ?_⟩
            obtain ⟨valuedLess, valuedEqual⟩ :=
              valued (valuation.consistent_of_reaches reachedFinal consistent)
            rw [valuedResult consistent, valuedLess, valuedEqual, List.map_cons, List.map_cons,
              lexLess]
            cases valuation.value less <;> cases valuation.value equal <;>
              cases valuation.value left <;> cases valuation.value right <;> simp

/-- The inherited strict order is the lexicographic one. -/
theorem RealizesComparison.lexLtOf {constants : Constants V} {neg : V → Act σ V}
    {conj disj iff : V → V → Act σ V} (fixes : valuation.Fixes constants)
    (negates : valuation.RealizesNeg neg) (conjoins : valuation.Realizes .conj conj)
    (joins : valuation.Realizes .disj disj) (compares : valuation.Realizes .iff iff) :
    valuation.RealizesComparison .lexLt (Constants.lexLtOf constants neg conj disj iff) := by
  intro state lefts rights liveLefts liveRights
  simp only [Comparison.eval, List.length_map, Constants.lexLtOf]
  by_cases lengths : lefts.length = rights.length
  · rw [if_pos lengths, if_pos lengths]
    intro valid
    have computes := computes_lexLtFrom fixes negates conjoins joins compares
      (fixes.live_bot state valid) (fixes.live_top state valid) liveLefts liveRights
    refine Runs.weaken computes (fun next result reached ⟨liveResult, valued⟩ =>
      ⟨liveResult, fun consistent => ?_⟩) valid
    have before := valuation.consistent_of_reaches reached consistent
    rw [valued consistent, fixes.value_bot state valid before, fixes.value_top state valid before,
      Bool.false_or, Bool.true_and]
  · rw [if_neg lengths, if_neg lengths]
    rfl

/-- The inherited order with equality is the negation of the strict one the other way round. -/
theorem RealizesComparison.lexLeOf {neg : V → Act σ V} {lexLt : List V → List V → Act σ V}
    (negates : valuation.RealizesNeg neg) (compares : valuation.RealizesComparison .lexLt lexLt) :
    valuation.RealizesComparison .lexLe (Constants.lexLeOf neg lexLt) := by
  intro state lefts rights liveLefts liveRights
  have compared := compares state rights lefts liveRights liveLefts
  simp only [Comparison.eval, List.length_map] at compared ⊢
  by_cases lengths : rights.length = lefts.length
  · rw [if_pos lengths] at compared ⊢
    exact Computes.bind (fun value => !value) compared fun middle result _ _ live =>
      negates middle result live
  · rw [if_neg lengths] at compared ⊢
    exact Act.runOn_bind_error compared _

variable (valuation) in
/-- Every operation of an algebra computes what its name says. -/
structure Interprets (algebra : BoolAlgebra σ V) : Prop where
  fixes : valuation.Fixes algebra.toConstants
  lift : valuation.RealizesLift algebra.lift
  neg : valuation.RealizesNeg algebra.neg
  connective : ∀ connective, valuation.Realizes connective (algebra.connective connective)
  aggregate : ∀ aggregate, valuation.RealizesAggregate aggregate (algebra.aggregate aggregate)
  compare : ∀ comparison, valuation.RealizesComparison comparison (algebra.compare comparison)

end Valuation

end TensorLogic
