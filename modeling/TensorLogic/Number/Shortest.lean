/-
Module: TensorLogic.Number.Shortest
Purpose: Numbers in binary floating point as text.
Main exports: Binary64.readsBack, Binary64.shortest?, Binary64.text, Floating.text
-/
import TensorLogic.Number.Floating

namespace TensorLogic

namespace Binary64

/-!
A number is written with the fewest decimal digits from which it can be read back.  With one digit, two
digits and so on, the two decimals on either side of the number are tried, and of two that can be read
back the nearer one is taken, or the even one where they are equally near.  Seventeen digits always
suffice.
-/

/-- A power of ten times the digits. -/
structure Decimal where
  digits : Nat
  exponent : Int
deriving Repr, DecidableEq

/-- The value of a decimal, as a quotient. -/
def Decimal.ratio (decimal : Decimal) : Nat × Nat :=
  (decimal.digits * Nat.pow 10 decimal.exponent.toNat, Nat.pow 10 (-decimal.exponent).toNat)

/-- The number of places before the decimal point of a quotient other than zero: the least power of ten
that is greater.  It is negative where zeros follow the point. -/
def decimalPlaces (numerator denominator : Nat) : Int :=
  let estimate : Int := (Nat.toDigits 10 numerator).length - (Nat.toDigits 10 denominator).length
  if numerator * Nat.pow 10 (-estimate).toNat < denominator * Nat.pow 10 estimate.toNat then estimate
  else estimate + 1

/-- Whether the number nearest to a decimal is the given one, leaving the sign aside. -/
def readsBack (number : Binary64) (decimal : Decimal) : Bool :=
  nearest number.negative decimal.ratio.1 decimal.ratio.2 == number

/-- Whether the decimal below a number is preferred to the one above it, which has one more in its last
digit: it is nearer, or equally near and even. -/
def isLowerPreferred (number : Binary64) (lower : Decimal) : Bool :=
  let middle := (2 * lower.digits + 1) * Nat.pow 10 lower.exponent.toNat * number.ratio.2
  let doubled := 2 * number.ratio.1 * Nat.pow 10 (-lower.exponent).toNat
  doubled < middle || (doubled == middle && lower.digits % 2 == 0)

/-- A decimal with so many digits from which the number can be read back, if there is one. -/
def withDigits? (number : Binary64) (count : Nat) : Option Decimal :=
  let (numerator, denominator) := number.ratio
  let exponent := decimalPlaces numerator denominator - count
  let lower : Decimal :=
    ⟨numerator * Nat.pow 10 (-exponent).toNat / (denominator * Nat.pow 10 exponent.toNat), exponent⟩
  let upper : Decimal := { lower with digits := lower.digits + 1 }
  if number.readsBack lower && (number.isLowerPreferred lower || !number.readsBack upper) then
    some lower
  else if number.readsBack upper then some upper
  else none

/-- The shortest decimal from which a number other than zero can be read back. -/
def shortest? (number : Binary64) : Option Decimal :=
  (List.range 17).findSome? fun fewer => number.withDigits? (fewer + 1)

/-- The digits without zeros at their end. -/
def significant (digits : List Char) : List Char :=
  (digits.reverse.dropWhile (· == '0')).reverse

/-- A power of ten after the letter `e`, with its sign and at least two digits. -/
def exponentText (exponent : Int) : List Char :=
  let digits := Nat.toDigits 10 exponent.natAbs
  'e' :: (if exponent < 0 then '-' else '+') :: List.replicate (2 - digits.length) '0' ++ digits

/-- Digits laid out with a decimal point after the given number of places.  From seventeen places on, and
where more than three zeros follow the point, the point stands after the first digit, and a power
of ten follows. -/
def layout (digits : List Char) (places : Int) : List Char :=
  if places ≤ -4 || 16 < places then
    match digits with
    | [digit] => digit :: exponentText (places - 1)
    | digit :: rest => digit :: '.' :: rest ++ exponentText (places - 1)
    | [] => []
  else if places ≤ 0 then '0' :: '.' :: List.replicate (-places).toNat '0' ++ digits
  else
    let whole := digits.take places.toNat ++ List.replicate (places.toNat - digits.length) '0'
    let part := digits.drop places.toNat
    whole ++ '.' :: (if part.isEmpty then ['0'] else part)

/-- How a number is written without its sign: there is a digit on either side of the point. -/
def unsignedText (number : Binary64) : List Char :=
  match number.isZero, number.shortest? with
  | false, some decimal =>
      let digits := Nat.toDigits 10 decimal.digits
      layout (significant digits) (digits.length + decimal.exponent)
  | _, _ => ['0', '.', '0']

/-- How a number is written. -/
def text (number : Binary64) : String :=
  String.ofList (if number.negative then '-' :: number.unsignedText else number.unsignedText)

end Binary64

namespace Floating

/-- How a number is written.  Infinite and undefined numbers have names. -/
def text : Floating → String
  | finite number => number.text
  | infinite negative => if negative then "-inf" else "inf"
  | undefined => "nan"

/-- The fewest digits are written, positionally from one ten-thousandth to below ten to the sixteenth. -/
example :
    (ofDecimal false 1 (-1)).text = "0.1" ∧ (ofDecimal true 0 0).text = "-0.0" ∧
      (ofDecimal false 1 16).text = "1e+16" ∧ (ofDecimal false 1 (-7)).text = "1e-07" ∧
      (ofDecimal false 1 (-4)).text = "0.0001" ∧ (ofDecimal true 1 309).text = "-inf" ∧
      (ofDecimal false 12345678901234567890 1).text = "1.2345678901234568e+20" := by
  decide +kernel

end Floating

end TensorLogic
