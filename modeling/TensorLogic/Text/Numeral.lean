/-
Module: TensorLogic.Text.Numeral
Purpose: Whole numbers read from and written to text.
Main exports: natOfDigits?, NumeralError, readNumeral, writeNumeral
-/
import TensorLogic.Text.Digit

namespace TensorLogic.Text

/-!
A numeral is an optional sign followed by decimal digits of any script.  Leading zeros are allowed,
and so is a single underscore between two digits.  A numeral has a limited number of digits, leading
zeros included.
-/

/-- Continue a number with the characters that follow one of its digits.  An underscore has to be
followed by a digit. -/
def continueDigits (value : Nat) : List Char → Option Nat
  | [] => some value
  | '_' :: character :: rest => do
      continueDigits (10 * value + (← digitValue? character)) rest
  | character :: rest => do
      continueDigits (10 * value + (← digitValue? character)) rest

/-- The number written by a non-empty sequence of digits. -/
def natOfDigits? : List Char → Option Nat
  | [] => none
  | character :: rest => do continueDigits (← digitValue? character) rest

/-- Why a text cannot be read as a numeral: it is none, or it is one with too many digits. -/
inductive NumeralError where
  | malformed
  | tooLong (digits : Nat)
deriving Repr, DecidableEq

/-- The largest number of digits that a numeral may have. -/
def digitLimit : Nat := 4300

/-- Whether a character can stand among the digits of a numeral. -/
def isNumeralPart (character : Char) : Bool := character == '_' || (digitValue? character).isSome

/-- Whether characters can follow one of the digits of a numeral.  An underscore has to be followed by a
digit. -/
def continuesDigits : List Char → Bool
  | [] => true
  | '_' :: character :: rest => (digitValue? character).isSome && continuesDigits rest
  | character :: rest => (digitValue? character).isSome && continuesDigits rest

/-- Whether a text consists of digits, with single underscores between some of them. -/
def areDigits : List Char → Bool
  | [] => false
  | character :: rest => (digitValue? character).isSome && continuesDigits rest

/-- The number that a text without a sign stands for.  The digits that the text begins with are counted
before what follows them is looked at. -/
def readDigits (text : List Char) : Except NumeralError Nat :=
  let digits := text.takeWhile isNumeralPart
  let count := digits.countP (· != '_')
  if digitLimit < count then
    .error (if areDigits digits then .tooLong count else .malformed)
  else
    match natOfDigits? digits with
    | none => .error .malformed
    | some value => if digits.length = text.length then .ok value else .error .malformed

/-- The whole number that a numeral stands for. -/
def readNumeral : List Char → Except NumeralError Int
  | '-' :: digits => (readDigits digits).map fun value => -(value : Int)
  | '+' :: digits => (readDigits digits).map Int.ofNat
  | digits => (readDigits digits).map Int.ofNat

/-- A whole number in decimal digits, after a minus sign if it is negative. -/
def writeNumeral : Int → String
  | .ofNat value => String.ofList (Nat.toDigits 10 value)
  | .negSucc value => String.ofList ('-' :: Nat.toDigits 10 (value + 1))

/-- Leading zeros and single underscores between digits are read; a sign alone, or an underscore that
is not between two digits, is not. -/
example :
    (readNumeral "-0_10".toList).toOption = some (-10) ∧
      (readNumeral "+7".toList).toOption = some 7 ∧
      (readNumeral "1__0".toList).toOption = none ∧ (readNumeral "1_".toList).toOption = none ∧
      (readNumeral "_1".toList).toOption = none ∧ (readNumeral "-".toList).toOption = none := by
  decide

/-- Numbers are written without leading zeros and without a plus sign. -/
example : writeNumeral 120 = "120" ∧ writeNumeral 0 = "0" ∧ writeNumeral (-7) = "-7" := by decide

end TensorLogic.Text
