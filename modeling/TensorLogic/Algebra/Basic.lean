/-
Module: TensorLogic.Algebra.Basic
Purpose: Boolean algebras whose elements are abstract truth values, given by negation and conjunction.
Main exports: Constants, Constants.ofDistinct, BoolAlgebra, BoolAlgebra.inherit, and the inherited
  operations in the namespace Constants
-/
import TensorLogic.Effect

namespace TensorLogic

/-!
A predicate is written once, against the operations of a Boolean algebra, and can then be evaluated
on truth values or compiled into a formula.  An algebra has to say what negation and conjunction are;
all other operations have a definition in terms of these two, which an algebra may replace by a better
one.

An operation is a computation: it may fail, and it may change a state, as the gates of a circuit do.
The order of the calls is therefore part of the definitions below.  They look at an element only to
see whether it *is* one of the two constants, and take short cuts when it is.
-/

/-- The two constants of an algebra and the test for each of them. -/
structure Constants (V : Type) where
  bot : V
  top : V
  isBot : V → Bool
  isTop : V → Bool
  isBot_iff : ∀ element, isBot element = true ↔ element = bot
  isTop_iff : ∀ element, isTop element = true ↔ element = top
  bot_ne_top : bot ≠ top

namespace Constants

variable {σ V : Type}

/-- Two elements as the constants of an algebra, if they are distinct. -/
def ofDistinct [DecidableEq V] (bot top : V) : Except Fault (Constants V) :=
  if distinct : bot ≠ top then
    .ok {
      bot
      top
      isBot := fun element => element = bot
      isTop := fun element => element = top
      isBot_iff := by simp
      isTop_iff := by simp
      bot_ne_top := distinct }
  else .error .equalConstants

/-- The constant for a truth value. -/
def lift (constants : Constants V) (value : Bool) : V :=
  if value then constants.top else constants.bot

/-!
### The inherited operations

Each of them is given the operations that it calls, so that it uses those of the algebra that inherits
it.
-/

/-- Disjunction, by the rule of De Morgan. -/
def disjOf (neg : V → Act σ V) (conj : V → V → Act σ V) (left right : V) : Act σ V := do
  let notLeft ← neg left
  let notRight ← neg right
  neg (← conj notLeft notRight)

/-- Exclusive disjunction: one of the two and not the other. -/
def xorOf (neg : V → Act σ V) (conj disj : V → V → Act σ V) (left right : V) : Act σ V := do
  let onlyLeft ← conj left (← neg right)
  let onlyRight ← conj (← neg left) right
  disj onlyLeft onlyRight

/-- Equivalence: not one without the other. -/
def iffOf (neg : V → Act σ V) (xor : V → V → Act σ V) (left right : V) : Act σ V := do
  neg (← xor left right)

/-- Implication. -/
def impOf (neg : V → Act σ V) (disj : V → V → Act σ V) (left right : V) : Act σ V := do
  disj (← neg left) right

/-- Conjunction of a result with all remaining elements.  A false element ends it. -/
def allFrom (constants : Constants V) (conj : V → V → Act σ V) (result : V) :
    List V → Act σ V
  | [] => pure result
  | element :: elements =>
      if constants.isBot element then pure constants.bot
      else do allFrom constants conj (← conj result element) elements

/-- Disjunction of a result with all remaining elements.  A true element ends it. -/
def anyFrom (constants : Constants V) (disj : V → V → Act σ V) (result : V) :
    List V → Act σ V
  | [] => pure result
  | element :: elements =>
      if constants.isTop element then pure constants.top
      else do anyFrom constants disj (← disj result element) elements

/-- Exclusive disjunction of a result with all remaining elements. -/
def parityFrom (xor : V → V → Act σ V) (result : V) : List V → Act σ V
  | [] => pure result
  | element :: elements => do parityFrom xor (← xor result element) elements

/-- What counting up to two knows of the elements already looked at: whether one of them is true, and
whether two are. -/
structure Tally (V : Type) where
  seen : V
  many : V

/-- Count the elements up to two, beginning with a tally.  The count ends with `none` as soon as two
elements are certain to be true. -/
def tallyFrom (constants : Constants V) (conj disj : V → V → Act σ V) (tally : Tally V) :
    List V → Act σ (Option (Tally V))
  | [] => pure (some tally)
  | element :: elements => do
      let many ← disj tally.many (← conj tally.seen element)
      if constants.isTop many then pure none
      else
        let seen ← disj tally.seen element
        tallyFrom constants conj disj ⟨seen, many⟩ elements

/-- The tally of no elements. -/
def noTally (constants : Constants V) : Tally V := ⟨constants.bot, constants.bot⟩

/-- Exactly one of the elements is true: one is, and not two. -/
def oneOf (constants : Constants V) (neg : V → Act σ V) (conj disj : V → V → Act σ V)
    (elements : List V) : Act σ V := do
  match ← tallyFrom constants conj disj constants.noTally elements with
  | none => pure constants.bot
  | some tally => do conj tally.seen (← neg tally.many)

/-- At least two of the elements are true. -/
def manyOf (constants : Constants V) (conj disj : V → V → Act σ V) (elements : List V) :
    Act σ V := do
  match ← tallyFrom constants conj disj constants.noTally elements with
  | none => pure constants.top
  | some tally => pure tally.many

/-- Conjunction of a result with the equivalence of the first element and each remaining one.  A false
result ends it. -/
def allEqualFrom (constants : Constants V) (conj iff : V → V → Act σ V) (first result : V) :
    List V → Act σ V
  | [] => pure result
  | element :: elements => do
      let result ← conj result (← iff first element)
      if constants.isBot result then pure result
      else allEqualFrom constants conj iff first result elements

/-- All elements are equal.  Of no elements this is not defined. -/
def allEqualOf (constants : Constants V) (conj iff : V → V → Act σ V) : List V → Act σ V
  | [] => throw .emptyEquality
  | first :: elements => allEqualFrom constants conj iff first constants.top elements

/-- The strict lexicographic comparison, given its result for the positions already looked at and
whether they are all equal.  If they certainly are not, the result stands. -/
def lexLtFrom (constants : Constants V) (neg : V → Act σ V) (conj disj iff : V → V → Act σ V)
    (less equal : V) : List V → List V → Act σ V
  | left :: lefts, right :: rights => do
      let less ← disj less (← conj equal (← conj (← neg left) right))
      let equal ← conj equal (← iff left right)
      if constants.isBot equal then pure less
      else lexLtFrom constants neg conj disj iff less equal lefts rights
  | _, _ => pure less

/-- The strict lexicographic comparison of two sequences of the same length, the first position being
the most significant one. -/
def lexLtOf (constants : Constants V) (neg : V → Act σ V) (conj disj iff : V → V → Act σ V)
    (lefts rights : List V) : Act σ V :=
  if lefts.length = rights.length then
    lexLtFrom constants neg conj disj iff constants.bot constants.top lefts rights
  else throw (.lengthsDiffer lefts.length rights.length)

/-- The other lexicographic comparison: not strictly greater. -/
def lexLeOf (neg : V → Act σ V) (lexLt : List V → List V → Act σ V) (lefts rights : List V) :
    Act σ V := do
  neg (← lexLt rights lefts)

end Constants

open Constants in
/-- A Boolean algebra with elements of type `V`, whose operations act on a state of type `σ`.  The
operations after `conj` are inherited unless the algebra gives its own. -/
structure BoolAlgebra (σ V : Type) extends Constants V where
  /-- Negation. -/
  neg : V → Act σ V
  /-- Conjunction. -/
  conj : V → V → Act σ V
  /-- The constant for a truth value. -/
  lift : Bool → V := toConstants.lift
  /-- Disjunction. -/
  disj : V → V → Act σ V := disjOf neg conj
  /-- Exclusive disjunction. -/
  xor : V → V → Act σ V := xorOf neg conj disj
  /-- Equivalence. -/
  iff : V → V → Act σ V := iffOf neg xor
  /-- Implication. -/
  imp : V → V → Act σ V := impOf neg disj
  /-- Conjunction of all elements. -/
  all : List V → Act σ V := allFrom toConstants conj top
  /-- Disjunction of all elements. -/
  any : List V → Act σ V := anyFrom toConstants disj bot
  /-- Exclusive disjunction of all elements: an odd number of them are true. -/
  parity : List V → Act σ V := parityFrom xor bot
  /-- Exactly one element is true. -/
  one : List V → Act σ V := oneOf toConstants neg conj disj
  /-- At least two elements are true. -/
  many : List V → Act σ V := manyOf toConstants conj disj
  /-- All elements are equal. -/
  allEqual : List V → Act σ V := allEqualOf toConstants conj iff
  /-- The strict lexicographic order. -/
  lexLt : List V → List V → Act σ V := lexLtOf toConstants neg conj disj iff
  /-- The lexicographic order. -/
  lexLe : List V → List V → Act σ V := lexLeOf neg lexLt

/-- The algebra with the given constants, negation and conjunction, which inherits everything else. -/
def BoolAlgebra.inherit {σ V : Type} (constants : Constants V) (neg : V → Act σ V)
    (conj : V → V → Act σ V) : BoolAlgebra σ V where
  toConstants := constants
  neg := neg
  conj := conj

end TensorLogic
