/-
Module: TensorLogic.Number.Floating
Purpose: Numbers in binary floating point, and the exact comparison of numbers of all kinds.
Main exports: Exact, Exact.equal, Exact.less, Quantity, Quantity.equal, Quantity.less, Binary64,
  Binary64.exact, Binary64.nearest, Floating, Floating.quantity?, Floating.ofDecimal, Floating.ofNumeral
-/

namespace TensorLogic

/-!
A number with a fraction is held in binary floating point, with fifty-three significant binary digits.
It is therefore seldom the decimal that it was read from, but the nearest number of this form.

Numbers of different kinds are compared by their exact values: a power of two times a whole number.  An
infinite number has no such value.  It lies beyond all others, and is equal to itself only.
-/

/-- A whole number times a power of two. -/
structure Exact where
  mantissa : Int
  exponent : Int
deriving Repr

namespace Exact

/-- A whole number. -/
def ofInt (value : Int) : Exact := ⟨value, 0⟩

/-- The mantissas of two numbers over the lower one of their powers of two. -/
def align (left right : Exact) : Int × Int :=
  let shift (number : Exact) (places : Nat) : Int := number.mantissa * Int.ofNat (Nat.pow 2 places)
  (shift left (left.exponent - right.exponent).toNat,
    shift right (right.exponent - left.exponent).toNat)

/-- Whether two numbers have the same value. -/
def equal (left right : Exact) : Bool := (align left right).1 == (align left right).2

/-- Whether a number is less than another one. -/
def less (left right : Exact) : Bool := (align left right).1 < (align left right).2

/-- The whole number that is left when the fraction of a number is dropped. -/
def truncate (number : Exact) : Int :=
  Int.tdiv (number.mantissa * Int.ofNat (Nat.pow 2 number.exponent.toNat))
    (Int.ofNat (Nat.pow 2 (-number.exponent).toNat))

/-- The least whole number that is not less than a number. -/
def ceiling (number : Exact) : Int :=
  -Int.fdiv (-number.mantissa * Int.ofNat (Nat.pow 2 number.exponent.toNat))
    (Int.ofNat (Nat.pow 2 (-number.exponent).toNat))

/-- Three halves are less than two, and two is four halves. -/
example :
    less ⟨3, -1⟩ (ofInt 2) = true ∧ equal ⟨4, -1⟩ (ofInt 2) = true ∧ truncate ⟨-3, -1⟩ = -1 ∧
      ceiling ⟨3, -1⟩ = 2 ∧ ceiling (ofInt 2) = 2 := by
  decide

end Exact

/-- What numbers are compared by: their exact value, or that they are infinite, with their sign. -/
inductive Quantity where
  | finite (value : Exact)
  | infinite (negative : Bool)
deriving Repr

namespace Quantity

/-- A whole number. -/
def ofInt (value : Int) : Quantity := .finite (.ofInt value)

/-- Whether two numbers are equal. -/
def equal : Quantity → Quantity → Bool
  | finite left, finite right => left.equal right
  | infinite left, infinite right => left == right
  | _, _ => false

/-- Whether a number is less than another one. -/
def less : Quantity → Quantity → Bool
  | finite left, finite right => left.less right
  | finite _, infinite negative => !negative
  | infinite negative, finite _ => negative
  | infinite left, infinite right => left && !right

/-- Whether a number is less than another one or equal to it. -/
def atMost (left right : Quantity) : Bool := !right.less left

/-- No whole number is as great as an infinite one, and none as small. -/
example :
    (ofInt (2 ^ 65536)).less (infinite false) = true ∧ (infinite true).less (ofInt (-2 ^ 65536)) = true ∧
      (infinite false).equal (infinite true) = false := by decide

end Quantity

/-- A quotient, rounded to the nearest whole number; of two that are equally near, to the even one. -/
def roundDiv (numerator denominator : Nat) : Nat :=
  let quotient := numerator / denominator
  let doubled := 2 * (numerator % denominator)
  if denominator < doubled || (doubled == denominator && quotient % 2 == 1) then quotient + 1
  else quotient

/-- A quotient halfway between two numbers goes to the even one. -/
example : roundDiv 5 2 = 2 ∧ roundDiv 7 2 = 4 ∧ roundDiv 9 4 = 2 ∧ roundDiv 11 4 = 3 := by decide

/-- A power of two times a mantissa, with a sign.  There are two zeros, which differ in their sign. -/
structure Binary64 where
  negative : Bool
  mantissa : Nat
  exponent : Int
deriving Repr, DecidableEq, Inhabited

namespace Binary64

/-- The number of binary digits of a mantissa. -/
def precision : Nat := 53

/-- The least exponent, which small numbers have whatever the size of their mantissa. -/
def leastExponent : Int := -1074

/-- Zero, with a sign. -/
def zero (negative : Bool) : Binary64 := ⟨negative, 0, leastExponent⟩

/-- The value of a number. -/
def exact (number : Binary64) : Exact :=
  ⟨if number.negative then -(number.mantissa : Int) else number.mantissa, number.exponent⟩

/-- Whether a number is a zero. -/
def isZero (number : Binary64) : Bool := number.mantissa == 0

/-- The absolute value of a number, as a quotient. -/
def ratio (number : Binary64) : Nat × Nat :=
  (number.mantissa * Nat.pow 2 number.exponent.toNat, Nat.pow 2 (-number.exponent).toNat)

/-- The exponent at which the integral part of a quotient other than zero, divided by that power of two,
has as many binary digits as a mantissa, or the least exponent if that is higher. -/
def exponentOf (numerator denominator : Nat) : Int :=
  let estimate : Int := Nat.log2 numerator - Nat.log2 denominator - 52
  let scaled := numerator * Nat.pow 2 (-estimate).toNat / (denominator * Nat.pow 2 estimate.toNat)
  let fitted := if Nat.log2 scaled < 52 then estimate - 1 else estimate
  if fitted < leastExponent then leastExponent else fitted

/-- The number nearest to a quotient, with a sign; of two equally near ones the one with the even
mantissa. -/
def nearest (negative : Bool) (numerator denominator : Nat) : Binary64 :=
  if numerator = 0 then zero negative
  else
    let exponent := exponentOf numerator denominator
    let rounded := roundDiv (numerator * Nat.pow 2 (-exponent).toNat)
      (denominator * Nat.pow 2 exponent.toNat)
    if Nat.log2 rounded < precision then ⟨negative, rounded, exponent⟩
    else ⟨negative, rounded / 2, exponent + 1⟩

end Binary64

/-- A number in binary floating point.  It may be infinite, with a sign, or no number at all, which equals
nothing, not even itself. -/
inductive Floating where
  | finite (number : Binary64)
  | infinite (negative : Bool)
  | undefined
deriving Repr, DecidableEq, Inhabited

namespace Floating

/-- The greatest exponent of a finite number. -/
def greatestExponent : Int := 971

/-- Whether a number is a zero. -/
def isZero : Floating → Bool
  | finite number => number.isZero
  | _ => false

/-- What a number is compared by, if it is one. -/
def quantity? : Floating → Option Quantity
  | finite number => some (.finite number.exact)
  | infinite negative => some (.infinite negative)
  | undefined => none

/-- Zero, with a sign. -/
def zero (negative : Bool) : Floating := .finite (.zero negative)

/-- The number nearest to a quotient, with a sign.  Where the quotient is too large it is infinite. -/
def ofRatio (negative : Bool) (numerator denominator : Nat) : Floating :=
  let number := Binary64.nearest negative numerator denominator
  if greatestExponent < number.exponent then infinite negative else finite number

/-- Decimals with more places before the point than this are too large, and those with so many zeros
after it are nearest to zero. -/
def decimalRange : Int := 400

/-- The number nearest to a decimal: a power of ten times the digits, with a sign. -/
def ofDecimal (negative : Bool) (digits : Nat) (exponent : Int) : Floating :=
  let places := (Nat.toDigits 10 digits).length + exponent
  if digits = 0 || places < -decimalRange then zero negative
  else if decimalRange < places then infinite negative
  else ofRatio negative (digits * Nat.pow 10 exponent.toNat) (Nat.pow 10 (-exponent).toNat)

/-- One tenth has no exact form, and between two neighbours the even one is taken. -/
example :
    ofDecimal false 1 (-1) = finite ⟨false, 0x1999999999999a, -56⟩ ∧
      ofDecimal false 0x20000000000001 0 = finite ⟨false, 0x10000000000000, 1⟩ ∧
      ofDecimal true 5 (-324) = finite ⟨true, 1, -1074⟩ ∧ ofDecimal false 1 400 = infinite false := by
  decide +kernel

/-- The number that decimal digits stand for. -/
def ofDigits (digits : List Char) : Nat :=
  digits.foldl (fun total digit => 10 * total + (digit.toNat - '0'.toNat)) 0

/-- The number that digits with a sign before them stand for. -/
def ofSignedDigits : List Char → Int
  | '-' :: digits => -(ofDigits digits : Int)
  | '+' :: digits => ofDigits digits
  | digits => ofDigits digits

/-- Whether a letter stands before an exponent. -/
def isExponentLetter (letter : Char) : Bool := letter == 'e' || letter == 'E'

/-- The number that digits with or without a point among them and a power of ten behind them stand for,
with a sign. -/
def ofUnsigned (negative : Bool) (numeral : List Char) : Floating :=
  let digits := numeral.takeWhile fun letter => !isExponentLetter letter
  let power := (numeral.dropWhile fun letter => !isExponentLetter letter).drop 1
  let whole := digits.takeWhile (· != '.')
  let places := (digits.dropWhile (· != '.')).drop 1
  ofDecimal negative (ofDigits (whole ++ places)) (ofSignedDigits power - places.length)

/-- The number that a decimal numeral stands for.  Infinite and undefined numbers have their names as
numerals. -/
def ofNumeral : List Char → Floating
  | 'N' :: _ => undefined
  | 'I' :: _ => infinite false
  | '-' :: 'I' :: _ => infinite true
  | '-' :: numeral => ofUnsigned true numeral
  | numeral => ofUnsigned false numeral

/-- A point and a power of ten move the digits. -/
example :
    ofNumeral "-1.25e+1".toList = ofDecimal true 125 (-1) ∧
      ofNumeral "5E-1".toList = ofDecimal false 5 (-1) ∧
      ofNumeral "2.0".toList = ofDecimal false 20 (-1) ∧
      ofNumeral "-Infinity".toList = infinite true := by
  decide +kernel

end Floating

end TensorLogic
