/-
Module: TensorLogic.Algebra.Truth
Purpose: The algebras of plain truth values.
Main exports: TruthValued, Truth.algebra, Truth.minimal
-/
import TensorLogic.Algebra.Operation

namespace TensorLogic

/-!
Wherever data count as true or false they can serve as the elements of an algebra whose constants are
the two truth values.  There are two such algebras.  In `Truth.algebra` every operation looks at what its
elements count as, one after the other and no further than it has to, and gives one of the constants.
`Truth.minimal` only says what negation and conjunction are, and its conjunction gives back one of its
operands as it is.
-/

/-- Elements that count as true or false, among them the two truth values. -/
class TruthValued (V : Type) where
  constants : Constants V
  truth : V → Bool
  truth_bot : truth constants.bot = false
  truth_top : truth constants.top = true

namespace Truth

variable {σ V : Type} [TruthValued V]

/-- The truth value that an element counts as, as an element. -/
def ofBool (value : Bool) : V := TruthValued.constants.lift value

/-- The truth values that elements count as. -/
def values (elements : List V) : List Bool := elements.map TruthValued.truth

/-- Whether all elements are true.  The first one that is not ends the search. -/
def allTrue : List V → Bool
  | [] => true
  | element :: elements => if TruthValued.truth element then allTrue elements else false

/-- Whether some element is true.  The first one that is ends the search. -/
def anyTrue : List V → Bool
  | [] => false
  | element :: elements => if TruthValued.truth element then true else anyTrue elements

/-- Change a truth value for each element that is true. -/
def toggled (result : Bool) : List V → Bool
  | [] => result
  | element :: elements => toggled (result != TruthValued.truth element) elements

/-- Count the true elements on from a number.  The count ends at two. -/
def countToTwo (number : Nat) : List V → Nat
  | [] => number
  | element :: elements =>
      if TruthValued.truth element then
        if 2 ≤ number + 1 then number + 1 else countToTwo (number + 1) elements
      else countToTwo number elements

/-- Whether a list of truth values comes before another one: the first place where they differ decides, and
where there is none, the shorter list comes first. -/
def isBefore : List Bool → List Bool → Bool
  | left :: lefts, right :: rights =>
      if left = right then isBefore lefts rights else !left && right
  | lefts, rights => lefts.length < rights.length

/-- The algebra in which each operation has its ordinary meaning.  Only the other lexicographic order is
inherited. -/
def algebra : BoolAlgebra σ V where
  toConstants := TruthValued.constants
  lift := ofBool
  neg := fun element => pure (ofBool !TruthValued.truth element)
  conj := fun left right => pure (table .conj left right)
  disj := fun left right => pure (table .disj left right)
  xor := fun left right => pure (table .xor left right)
  iff := fun left right => pure (table .iff left right)
  imp := fun left right => pure (table .imp left right)
  all := fun elements => pure (ofBool (allTrue elements))
  any := fun elements => pure (ofBool (anyTrue elements))
  parity := fun elements => pure (ofBool (toggled false elements))
  one := fun elements => pure (ofBool (countToTwo 0 elements == 1))
  many := fun elements => pure (ofBool (2 ≤ countToTwo 0 elements))
  allEqual := fun
    | [] => throw .emptyEquality
    | first :: elements =>
        pure (ofBool (elements.all fun element =>
          TruthValued.truth element == TruthValued.truth first))
  lexLt := fun lefts rights =>
    if lefts.length = rights.length then pure (ofBool (isBefore (values lefts) (values rights)))
    else throw (.lengthsDiffer lefts.length rights.length)
where
  /-- The value of a connective by its truth table. -/
  table (connective : Connective) (left right : V) : V :=
    ofBool (connective.eval (TruthValued.truth left) (TruthValued.truth right))

/-- The algebra that defines negation and conjunction and inherits everything else.  A conjunction is
its first operand where that is false, and otherwise its second. -/
def minimal : BoolAlgebra σ V :=
  .inherit TruthValued.constants
    (fun element => pure (ofBool !TruthValued.truth element))
    (fun left right => pure (if TruthValued.truth left then right else left))

end Truth

/-- The two truth values count as themselves. -/
instance : TruthValued Bool where
  constants := {
    bot := false
    top := true
    isBot := fun element => !element
    isTop := fun element => element
    isBot_iff := by simp
    isTop_iff := by simp
    bot_ne_top := Bool.false_ne_true }
  truth := fun element => element
  truth_bot := rfl
  truth_top := rfl

/-- The constants among data are the two truth values. -/
def Datum.truthConstants : Constants Datum where
  bot := .bool false
  top := .bool true
  isBot := fun
    | .scalar none (.bool false) => true
    | _ => false
  isTop := fun
    | .scalar none (.bool true) => true
    | _ => false
  isBot_iff := fun element => by
    constructor
    · intro holds
      split at holds
      · rfl
      · simp at holds
    · rintro rfl
      rfl
  isTop_iff := fun element => by
    constructor
    · intro holds
      split at holds
      · rfl
      · simp at holds
    · rintro rfl
      rfl
  bot_ne_top := by simp

instance : TruthValued Datum where
  constants := Datum.truthConstants
  truth := Datum.truth
  truth_bot := rfl
  truth_top := rfl

end TensorLogic
