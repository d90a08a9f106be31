/-
Module: TensorLogic.Number.Size
Purpose: The limits of machine words, and amounts of memory as text.
Main exports: wordLimit, sizeText
-/
import TensorLogic.Number.Floating

namespace TensorLogic

/-!
A machine word holds a number between two limits.

An amount of memory is written with three significant digits in the largest unit of which it is at least
one.  Units are powers of two; a rounded amount that reaches the next unit is written in that one.
-/

/-- The numbers in a machine word are less than this number, and not less than its negative. -/
def wordLimit : Nat := 0x8000000000000000

/-- The names of the units, each of which is so many times the one before it. -/
def sizeUnits : List String := ["bytes", "KiB", "MiB", "GiB", "TiB", "PiB", "EiB"]

/-- The binary logarithm of the step from one unit to the next. -/
def sizeStep : Nat := 10

/-- A quotient below a thousand with three significant digits.  The point is always written. -/
def threeDigits (numerator denominator : Nat) : String :=
  let scaled (scale : Nat) : Nat := roundDiv (numerator * scale) denominator
  let withPlaces (value places scale : Nat) : String :=
    let part := toString (value % scale)
    toString (value / scale) ++ "." ++ String.ofList (List.replicate (places - part.length) '0')
      ++ part
  if scaled 100 < 1000 then withPlaces (scaled 100) 2 100
  else if scaled 10 < 1000 then withPlaces (scaled 10) 1 10
  else toString (scaled 1) ++ "."

/-- How a number of bytes is written. -/
def sizeText (bytes : Nat) : String :=
  let unit := Nat.log2 bytes / sizeStep
  let units := roundDiv bytes (Nat.pow 2 (sizeStep * unit))
  let unit := if units = Nat.pow 2 sizeStep then unit + 1 else unit
  let number :=
    if unit = 0 then toString bytes else threeDigits bytes (Nat.pow 2 (sizeStep * unit))
  number ++ " " ++ sizeUnits.getD unit ""

/-- Three digits are significant, and units are powers of two. -/
example :
    sizeText 8000000000000 = "7.28 TiB" ∧ sizeText 0x8000000000 = "512. GiB" ∧
      sizeText 5 = "5 bytes" ∧ sizeText 10260 = "10.0 KiB" ∧ sizeText 0xffffffff = "4.00 GiB" := by
  decide +kernel

end TensorLogic
