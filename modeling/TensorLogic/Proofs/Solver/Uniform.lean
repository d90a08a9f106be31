/-
Module: TensorLogic.Proofs.Solver.Uniform
Purpose: Expressions over two solvers fail alike, or have alike values, if the gates of the solvers treat
  literals alike that correspond to each other.
Main exports: Solver.Matches, Solver.Matches.uniform, Solver.Matches.evaluate
-/
import TensorLogic.Proofs.Expr.Uniform
import TensorLogic.Solver.Bench

namespace TensorLogic.Solver

open Bridge

/-- The gates of two solvers with given numbers treat literals alike that correspond to each other. -/
structure Matches (bridge : Bridge Solver Solver) (Twin : Solver × Solver → Lit → Lit → Prop)
    (owner other : Nat) : Prop where
  keeps : ∀ event states, bridge.Valid states →
    bridge.Valid (HasJournal.note event states.1, HasJournal.note event states.2) ∧
      bridge.Reaches states (HasJournal.note event states.1, HasJournal.note event states.2)
  stable : bridge.Stable Twin
  code_eq : ∀ {states left right}, Twin states left right → left.code = right.code
  bot : ∀ states, bridge.Valid states → Twin states (bot owner) (bot other)
  top : ∀ states, bridge.Valid states → Twin states (top owner) (top other)
  bot_iff : ∀ {states left right}, Twin states left right →
    (left = Solver.bot owner ↔ right = Solver.bot other)
  top_iff : ∀ {states left right}, Twin states left right →
    (left = Solver.top owner ↔ right = Solver.top other)
  check : ∀ states left right, Twin states left right →
    bridge.Corresponds states (check left) (check right) fun _ _ _ => True
  neg : bridge.Unary Twin neg neg
  conj : bridge.Binary Twin conj conj
  disj : bridge.Binary Twin disj disj
  xor : bridge.Binary Twin xor xor
  all : bridge.Variadic Twin all all
  any : bridge.Variadic Twin any any

namespace Matches

variable {bridge : Bridge Solver Solver} {Twin : Solver × Solver → Lit → Lit → Prop}
  {owner other : Nat} (gates : Matches bridge Twin owner other)

include gates

theorem alike_constants :
    Constants.Alike bridge (fun states => Value.Alike (Twin states))
      (algebra owner).toConstants (algebra other).toConstants where
  bot := fun states valid => .elem (gates.bot states valid)
  top := fun states valid => .elem (gates.top states valid)
  isBot_eq := by
    intro states first second alike
    cases alike with
    | elem twin => exact decide_eq_decide.2 (gates.bot_iff twin)
    | scalar => rfl
    | list => rfl
    | tensor => rfl
  isTop_eq := by
    intro states first second alike
    cases alike with
    | elem twin => exact decide_eq_decide.2 (gates.top_iff twin)
    | scalar => rfl
    | list => rfl
    | tensor => rfl

/-- A value that is no literal is refused with the same text on both sides. -/
theorem operand {states : Solver × Solver} {first second : Value Lit}
    (alike : Value.Alike (Twin states) first second) :
    bridge.Corresponds states (operand first) (operand second) Twin := by
  have sameText : first.text Lit.describe = second.text Lit.describe :=
    alike.text_eq fun left right twin => by rw [Lit.describe, Lit.describe, gates.code_eq twin]
  cases alike with
  | elem twin =>
      exact (gates.check states _ _ twin).bind fun middle _ _ _ reached _ =>
        .pure (gates.stable reached twin)
  | scalar =>
      unfold Solver.operand
      exact .throw _
  | list =>
      unfold Solver.operand
      dsimp only
      rw [sameText]
      exact .throw _
  | tensor =>
      unfold Solver.operand
      dsimp only
      rw [sameText]
      exact .throw _

/-- Values that are alike are read as related literals, or refused on both sides. -/
theorem operands {states : Solver × Solver} {firsts seconds : List (Value Lit)}
    (members : List.Forall₂ (Value.Alike (Twin states)) firsts seconds) :
    bridge.Corresponds states (operands firsts) (operands seconds)
      fun states => List.Forall₂ (Twin states) := by
  induction firsts generalizing seconds states with
  | nil =>
      cases members
      exact .pure .nil
  | cons first firsts hypothesis =>
      cases members with
      | cons head tail =>
          refine (gates.operand head).bind fun middle left right _ reached twin => ?_
          have later : List.Forall₂ (Value.Alike (Twin middle)) firsts _ :=
            tail.imp fun _ _ alike => alike.mono fun _ _ => gates.stable reached
          refine (hypothesis later).bind fun last lefts rights _ reachedLast twins => ?_
          exact .pure (.cons (gates.stable reachedLast twin) twins)

/-- A gate that corresponds on literals corresponds on all values, since the others are refused. -/
theorem onOperands {operation : Lit → Lit → Act Solver Lit}
    (binary : bridge.Binary Twin operation operation) :
    bridge.Binary (fun states => Value.Alike (Twin states)) (onOperands operation)
      (onOperands operation) := by
  intro states first second third fourth alike further
  refine (gates.operand alike).bind fun middle left right _ reached twin => ?_
  have later : Value.Alike (Twin middle) third fourth :=
    further.mono fun _ _ => gates.stable reached
  refine (gates.operand later).bind fun next _ _ _ reachedNext twinFurther => ?_
  refine (binary next left right _ _ (gates.stable reachedNext twin) twinFurther).bind
    fun last _ _ _ _ found => ?_
  exact .pure (.elem found)

/-- A gate that corresponds on lists of literals corresponds on lists of all values. -/
theorem onAll {operation : List Lit → Act Solver Lit}
    (variadic : bridge.Variadic Twin operation operation) :
    bridge.Variadic (fun states => Value.Alike (Twin states)) (onAll operation)
      (onAll operation) := by
  intro states firsts seconds members
  refine (gates.operands members).bind fun middle lefts rights _ _ twins => ?_
  exact (variadic middle lefts rights twins).bind fun _ _ _ _ _ found => .pure (.elem found)

/-- All operations of the algebras treat alike values alike. -/
theorem uniform_algebra :
    (algebra owner).Uniform bridge (fun states => Value.Alike (Twin states)) (algebra other) := by
  have stable : bridge.Stable fun states => Value.Alike (Twin states) :=
    fun _ _ _ _ reached alike => alike.mono fun _ _ => gates.stable reached
  have constants := gates.alike_constants
  have negates : bridge.Unary (fun states => Value.Alike (Twin states)) (algebra owner).neg
      (algebra other).neg := fun states _ _ alike =>
    (gates.operand alike).bind fun middle _ _ _ _ twin =>
      (gates.neg middle _ _ twin).bind fun _ _ _ _ _ found => .pure (.elem found)
  have conjoins : bridge.Binary (fun states => Value.Alike (Twin states)) (algebra owner).conj
      (algebra other).conj := gates.onOperands gates.conj
  have joins : bridge.Binary (fun states => Value.Alike (Twin states)) (algebra owner).disj
      (algebra other).disj := gates.onOperands gates.disj
  have differs : bridge.Binary (fun states => Value.Alike (Twin states)) (algebra owner).xor
      (algebra other).xor := gates.onOperands gates.xor
  have compares : bridge.Binary (fun states => Value.Alike (Twin states)) (algebra owner).iff
      (algebra other).iff := Constants.alike_iffOf negates differs
  have orders : bridge.Comparing (fun states => Value.Alike (Twin states)) (algebra owner).lexLt
      (algebra other).lexLt :=
    Constants.alike_lexLtOf stable constants conjoins joins negates compares
  have choosesOne := Constants.alike_oneOf stable constants conjoins joins negates
  refine ⟨constants.bot, constants.top, constants.lift, negates, fun connective => ?_, fun aggregate => ?_,
    fun comparison => ?_⟩
  · cases connective with
    | conj => exact conjoins
    | disj => exact joins
    | xor => exact differs
    | iff => exact compares
    | imp => exact Constants.alike_impOf negates stable joins
  · cases aggregate with
    | all => exact gates.onAll gates.all
    | any => exact gates.onAll gates.any
    | parity =>
        exact fun states lefts rights members => .of_valid fun valid =>
          Constants.alike_parityFrom stable differs (constants.bot states valid) members
    | one => exact choosesOne
    | many => exact Constants.alike_manyOf stable constants conjoins joins
    | allEqual => exact Constants.alike_allEqualOf stable constants conjoins compares
  · cases comparison with
    | lexLt => exact orders
    | lexLe => exact Constants.alike_lexLeOf negates orders

theorem uniform :
    Interpretation.Uniform bridge Twin { algebra := algebra owner } { algebra := algebra other } where
  keeps := gates.keeps
  stable := gates.stable
  leaf := fun _ _ => .error _
  operations := gates.uniform_algebra

/-- Any expression over two solvers whose gates match fails alike, or has alike values. -/
theorem evaluate [Platform] (numbered : ∀ states, bridge.Valid states →
      states.1.owner = owner ∧ states.2.owner = other)
    {states : Solver × Solver} {names otherNames : Environment Lit}
    (alike : Environment.Alike (Twin states) names otherNames) (site : Site) (expression : Expr) :
    bridge.Corresponds states (evaluate names site expression) (evaluate otherNames site expression)
      fun states => Value.Alike (Twin states) := by
  refine .of_valid fun valid => ?_
  obtain ⟨isOwner, isOther⟩ := numbered states valid
  have transfers := Expr.transfers gates.uniform expression site states names otherNames alike
  rw [← isOwner, ← isOther] at transfers
  exact transfers

end Matches

end TensorLogic.Solver
