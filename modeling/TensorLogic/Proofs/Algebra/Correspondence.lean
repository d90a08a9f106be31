/-
Module: TensorLogic.Proofs.Algebra.Correspondence
Purpose: The inherited operations of two Boolean algebras treat related elements alike if the operations do
  that they are made of.
Main exports: Bridge.Unary, Bridge.Binary, Bridge.Variadic, Bridge.Comparing, Constants.Alike,
  Constants.Alike.oneOf, Constants.Alike.lexLtOf, BoolAlgebra.Uniform
-/
import TensorLogic.Algebra.Pointwise
import TensorLogic.Proofs.Effect.Correspondence

namespace TensorLogic

variable {σ τ V W : Type}

namespace Bridge

variable (bridge : Bridge σ τ) (Element : σ × τ → V → W → Prop)

/-- Two operations on one element treat related operands alike. -/
def Unary (left : V → Act σ V) (right : W → Act τ W) : Prop :=
  ∀ states first second, Element states first second →
    bridge.Corresponds states (left first) (right second) Element

/-- Two operations on two elements treat related operands alike. -/
def Binary (left : V → V → Act σ V) (right : W → W → Act τ W) : Prop :=
  ∀ states first second third fourth, Element states first second → Element states third fourth →
    bridge.Corresponds states (left first third) (right second fourth) Element

/-- Two operations on a sequence treat related members alike. -/
def Variadic (left : List V → Act σ V) (right : List W → Act τ W) : Prop :=
  ∀ states lefts rights, List.Forall₂ (Element states) lefts rights →
    bridge.Corresponds states (left lefts) (right rights) Element

/-- Two comparisons of sequences treat related members alike. -/
def Comparing (left : List V → List V → Act σ V) (right : List W → List W → Act τ W) : Prop :=
  ∀ states lefts rights others otherRights, List.Forall₂ (Element states) lefts rights →
    List.Forall₂ (Element states) others otherRights →
      bridge.Corresponds states (left lefts others) (right rights otherRights) Element

end Bridge

variable {bridge : Bridge σ τ} {Element : σ × τ → V → W → Prop}

/-- Two algebras treat related elements alike. -/
structure BoolAlgebra.Uniform (bridge : Bridge σ τ) (Element : σ × τ → V → W → Prop)
    (left : BoolAlgebra σ V) (right : BoolAlgebra τ W) : Prop where
  bot : ∀ states, bridge.Valid states → Element states left.bot right.bot
  top : ∀ states, bridge.Valid states → Element states left.top right.top
  lift : ∀ states, bridge.Valid states → ∀ value, Element states (left.lift value) (right.lift value)
  neg : bridge.Unary Element left.neg right.neg
  connective : ∀ connective,
    bridge.Binary Element (left.connective connective) (right.connective connective)
  aggregate : ∀ aggregate,
    bridge.Variadic Element (left.aggregate aggregate) (right.aggregate aggregate)
  compare : ∀ comparison,
    bridge.Comparing Element (left.compare comparison) (right.compare comparison)

namespace Constants

/-- The constants of two algebras are related, and related elements are told from them alike. -/
structure Alike (bridge : Bridge σ τ) (Element : σ × τ → V → W → Prop) (left : Constants V)
    (right : Constants W) : Prop where
  bot : ∀ states, bridge.Valid states → Element states left.bot right.bot
  top : ∀ states, bridge.Valid states → Element states left.top right.top
  isBot_eq : ∀ {states first second}, Element states first second →
    left.isBot first = right.isBot second
  isTop_eq : ∀ {states first second}, Element states first second →
    left.isTop first = right.isTop second

/-- The constants for a truth value are related. -/
theorem Alike.lift {left : Constants V} {right : Constants W}
    (alike : Alike bridge Element left right) (states : σ × τ) (valid : bridge.Valid states)
    (value : Bool) : Element states (left.lift value) (right.lift value) := by
  cases value with
  | false => exact alike.bot states valid
  | true => exact alike.top states valid

/-- Two tallies know related things. -/
def Tally.Related (states : σ × τ) (Element : σ × τ → V → W → Prop) (left : Tally V)
    (right : Tally W) : Prop :=
  Element states left.seen right.seen ∧ Element states left.many right.many

open Bridge Bridge.Corresponds

variable {constants : Constants V} {other : Constants W} {neg : V → Act σ V}
  {otherNeg : W → Act τ W} {conj disj xor iff : V → V → Act σ V}
  {otherConj otherDisj otherXor otherIff : W → W → Act τ W}

section

variable (negates : bridge.Unary Element neg otherNeg)

include negates

/-- Two inherited equivalences correspond where the negations and the exclusive disjunctions do. -/
theorem alike_iffOf (differs : bridge.Binary Element xor otherXor) :
    bridge.Binary Element (iffOf neg xor) (iffOf otherNeg otherXor) :=
  fun states _ _ _ _ one two => (differs states _ _ _ _ one two).bind
    fun middle _ _ _ _ found => negates middle _ _ found

/-- Two inherited implications correspond where the negations and the disjunctions do. -/
theorem alike_impOf (stable : bridge.Stable Element)
    (joins : bridge.Binary Element disj otherDisj) :
    bridge.Binary Element (impOf neg disj) (impOf otherNeg otherDisj) :=
  fun states _ _ _ _ one two => (negates states _ _ one).bind
    fun middle _ _ _ reached found => joins middle _ _ _ _ found (stable reached two)

/-- Two inherited orders with equality correspond where the strict orders do. -/
theorem alike_lexLeOf {lexLt : List V → List V → Act σ V} {otherLt : List W → List W → Act τ W}
    (compares : bridge.Comparing Element lexLt otherLt) :
    bridge.Comparing Element (lexLeOf neg lexLt) (lexLeOf otherNeg otherLt) :=
  fun states _ _ _ _ one two => (compares states _ _ _ _ two one).bind
    fun middle _ _ _ _ found => negates middle _ _ found

end

variable (stable : bridge.Stable Element)

include stable

/-- Two parities correspond, from whichever elements they are counted on. -/
theorem alike_parityFrom (differs : bridge.Binary Element xor otherXor) {states : σ × τ}
    {result : V} {otherResult : W} (related : Element states result otherResult) {elements : List V}
    {others : List W} (members : List.Forall₂ (Element states) elements others) :
    bridge.Corresponds states (parityFrom xor result elements)
      (parityFrom otherXor otherResult others) Element := by
  induction elements generalizing states result otherResult others with
  | nil =>
      cases members
      exact .pure related
  | cons element elements hypothesis =>
      cases members with
      | cons head tail =>
          refine (differs states _ _ _ _ related head).bind fun middle _ _ _ reached found => ?_
          exact hypothesis found (stable.list reached tail)

variable (alike : Alike bridge Element constants other)
  (conjoins : bridge.Binary Element conj otherConj)

include alike conjoins

/-- Two inherited equalities of all elements correspond where the equivalences do. -/
theorem alike_allEqualOf (compares : bridge.Binary Element iff otherIff) :
    bridge.Variadic Element (allEqualOf constants conj iff) (allEqualOf other otherConj otherIff) := by
  have folds : ∀ {states : σ × τ} {first result : V} {otherFirst otherResult : W} {elements : List V}
      {others : List W}, Element states first otherFirst → Element states result otherResult →
        List.Forall₂ (Element states) elements others →
          bridge.Corresponds states (allEqualFrom constants conj iff first result elements)
            (allEqualFrom other otherConj otherIff otherFirst otherResult others) Element := by
    intro states first result otherFirst otherResult elements others relatedFirst related members
    induction elements generalizing states result otherResult others with
    | nil =>
        cases members
        exact .pure related
    | cons element elements hypothesis =>
        cases members with
        | cons head tail =>
            refine (compares states _ _ _ _ relatedFirst head).bind
              fun middle _ _ _ reached equal => ?_
            refine (conjoins middle _ _ _ _ (stable reached related) equal).bind
              fun last next otherNext _ reachedLast found => ?_
            have along := bridge.reaches_trans reached reachedLast
            rw [alike.isBot_eq found]
            split
            · exact .pure found
            · exact hypothesis (stable along relatedFirst) found (stable.list along tail)
  intro states lefts rights members
  cases members with
  | nil => exact throw _
  | cons head tail => exact .of_valid fun valid => folds head (alike.top states valid) tail

variable (joins : bridge.Binary Element disj otherDisj)

include joins

/-- Two tallies over corresponding elements stop at the same element, or count on to the end on both sides.
-/
theorem alike_tallyFrom {states : σ × τ} {tally : Tally V} {otherTally : Tally W}
    (related : Tally.Related states Element tally otherTally) {elements : List V} {others : List W}
    (members : List.Forall₂ (Element states) elements others) :
    bridge.Corresponds states (tallyFrom constants conj disj tally elements)
      (tallyFrom other otherConj otherDisj otherTally others)
      fun states => Option.Rel (Tally.Related states Element) := by
  induction elements generalizing states tally otherTally others with
  | nil =>
      cases members
      exact .pure (.some related)
  | cons element elements hypothesis =>
      cases members with
      | cons head tail =>
          obtain ⟨seen, many⟩ := related
          refine (conjoins states _ _ _ _ seen head).bind fun second _ _ _ reached both => ?_
          refine (joins second _ _ _ _ (stable reached many) both).bind
            fun third _ _ _ reachedThird foundMany => ?_
          have along := bridge.reaches_trans reached reachedThird
          rw [alike.isTop_eq foundMany]
          split
          · exact .pure .none
          · refine (joins third _ _ _ _ (stable along seen) (stable along head)).bind
              fun last _ _ _ reachedLast foundSeen => ?_
            have further := bridge.reaches_trans along reachedLast
            exact hypothesis ⟨foundSeen, stable reachedLast foundMany⟩ (stable.list further tail)

omit stable conjoins joins in
theorem related_noTally {states : σ × τ} (valid : bridge.Valid states) :
    Tally.Related states Element constants.noTally other.noTally :=
  ⟨alike.bot states valid, alike.bot states valid⟩

theorem alike_manyOf :
    bridge.Variadic Element (manyOf constants conj disj) (manyOf other otherConj otherDisj) := by
  intro states lefts rights members
  refine .of_valid fun valid => ?_
  refine (alike_tallyFrom stable alike conjoins joins (related_noTally alike valid) members).bind
    fun middle found otherFound validMiddle _ same => ?_
  cases same with
  | none => exact .pure (alike.top middle validMiddle)
  | some related => exact .pure related.2

variable (negates : bridge.Unary Element neg otherNeg)

include negates

theorem alike_oneOf :
    bridge.Variadic Element (oneOf constants neg conj disj)
      (oneOf other otherNeg otherConj otherDisj) := by
  intro states lefts rights members
  refine .of_valid fun valid => ?_
  refine (alike_tallyFrom stable alike conjoins joins (related_noTally alike valid) members).bind
    fun middle found otherFound validMiddle _ same => ?_
  cases same with
  | none => exact .pure (alike.bot middle validMiddle)
  | some related =>
      refine (negates middle _ _ related.2).bind fun last _ _ _ reached notMany => ?_
      exact conjoins last _ _ _ _ (stable reached related.1) notMany

/-- Two inherited strict orders correspond where the equivalences do. -/
theorem alike_lexLtOf (compares : bridge.Binary Element iff otherIff) :
    bridge.Comparing Element (lexLtOf constants neg conj disj iff)
      (lexLtOf other otherNeg otherConj otherDisj otherIff) := by
  have folds : ∀ {states : σ × τ} {less equal : V} {otherLess otherEqual : W} {lefts rights : List V}
      {others otherRights : List W}, Element states less otherLess →
        Element states equal otherEqual → List.Forall₂ (Element states) lefts others →
          List.Forall₂ (Element states) rights otherRights →
            bridge.Corresponds states
              (lexLtFrom constants neg conj disj iff less equal lefts rights)
              (lexLtFrom other otherNeg otherConj otherDisj otherIff otherLess otherEqual others
                otherRights) Element := by
    intro states less equal otherLess otherEqual lefts rights others otherRights relatedLess
      relatedEqual members further
    induction lefts generalizing states less equal otherLess otherEqual rights others otherRights with
    | nil =>
        cases members
        exact .pure relatedLess
    | cons left lefts hypothesis =>
        cases members with
        | cons head tail =>
            cases further with
            | nil => exact .pure relatedLess
            | cons headFurther tailFurther =>
                refine (negates states _ _ head).bind fun second _ _ _ toSecond notLeft => ?_
                refine (conjoins second _ _ _ _ notLeft (stable toSecond headFurther)).bind
                  fun third _ _ _ fromSecond onlyRight => ?_
                have toThird := bridge.reaches_trans toSecond fromSecond
                refine (conjoins third _ _ _ _ (stable toThird relatedEqual) onlyRight).bind
                  fun fourth _ _ _ fromThird decides => ?_
                have toFourth := bridge.reaches_trans toThird fromThird
                refine (joins fourth _ _ _ _ (stable toFourth relatedLess) decides).bind
                  fun fifth _ _ _ fromFourth newLess => ?_
                have toFifth := bridge.reaches_trans toFourth fromFourth
                refine (compares fifth _ _ _ _ (stable toFifth head)
                  (stable toFifth headFurther)).bind fun sixth _ _ _ fromFifth same => ?_
                have toSixth := bridge.reaches_trans toFifth fromFifth
                refine (conjoins sixth _ _ _ _ (stable toSixth relatedEqual) same).bind
                  fun last _ _ _ fromSixth newEqual => ?_
                have toLast := bridge.reaches_trans toSixth fromSixth
                have lessLast := stable (bridge.reaches_trans fromFifth fromSixth) newLess
                rw [alike.isBot_eq newEqual]
                split
                · exact .pure lessLast
                · exact hypothesis lessLast newEqual (stable.list toLast tail)
                    (stable.list toLast tailFurther)
  intro states lefts rights others otherRights members further
  unfold lexLtOf
  rw [members.length_eq, further.length_eq]
  split
  · exact .of_valid fun valid =>
      folds (alike.bot states valid) (alike.top states valid) members further
  · exact throw _

end Constants

end TensorLogic
