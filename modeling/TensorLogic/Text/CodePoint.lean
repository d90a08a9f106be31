/-
Module: TensorLogic.Text.CodePoint
Purpose: The code points that a text consists of.
Main exports: announcer, isSurrogate, units, codePoint, ofCodePoint, codePoints, characters, paired
-/

namespace TensorLogic.Text

/-!
A text is a sequence of code points, and among them may be a surrogate that is not one half of a pair.  No
character has the code point of a surrogate.  So a surrogate is written as two characters: the last of all
characters, which announces it, and the character that lies a fixed distance above it.  The announcing
character itself is written twice.  All other code points are written as their characters.

No unit of one or two characters is the beginning of another one, so that texts can be put together and cut
between units without looking at their meaning.
-/

/-- The character that announces a surrogate. -/
def announcer : Char := Char.ofNat 0x10ffff

/-- The distance between a surrogate and the character that stands for it behind the announcing one. -/
def surrogateShift : Nat := 0x800

/-- Whether a code point is that of a surrogate. -/
def isSurrogate (code : Nat) : Bool := 0xd800 ≤ code && code < 0xe000

/-- Cut a text into the units that stand for one code point each, behind those that were cut off before, the
last one first. -/
def unitsFrom (before : List (List Char)) : List Char → List (List Char)
  | first :: second :: rest =>
      if first = announcer then unitsFrom ([first, second] :: before) rest
      else unitsFrom ([first] :: before) (second :: rest)
  | [last] => ([last] :: before).reverse
  | [] => before.reverse

/-- Cut a text into the units that stand for one code point each. -/
def units (text : List Char) : List (List Char) := unitsFrom [] text

/-- The code point that a unit stands for. -/
def codePoint : List Char → Nat
  | [_, second] => if second = announcer then announcer.toNat else second.toNat - surrogateShift
  | [character] => character.toNat
  | _ => 0

/-- The unit that stands for a code point. -/
def ofCodePoint (code : Nat) : List Char :=
  if isSurrogate code then [announcer, Char.ofNat (code + surrogateShift)]
  else if code = announcer.toNat then [announcer, announcer]
  else [Char.ofNat code]

/-- The code points of a text. -/
def codePoints (text : List Char) : List Nat := (units text).map codePoint

/-- The texts of one code point each that a text consists of. -/
def characters (text : String) : List String := (units text.toList).map String.ofList

/-- The code point that two surrogates stand for, if they are the halves of a pair. -/
def paired (high low : Nat) : Option Nat :=
  if 0xd800 ≤ high && high < 0xdc00 && 0xdc00 ≤ low && low < 0xe000 then
    some (0x10000 + (high - 0xd800) * 0x400 + (low - 0xdc00))
  else none

/-- The halves of the first and of the last pair, and two that are no pair. -/
example :
    paired 0xd800 0xdc00 = some 0x10000 ∧ paired 0xdbff 0xdfff = some 0x10ffff ∧
      paired 0xdc00 0xd800 = none := by
  decide

/-- A surrogate, the announcing character and a letter are one code point each. -/
example :
    codePoints (ofCodePoint 0xd800 ++ ofCodePoint 0x10ffff ++ ofCodePoint 0xfd800 ++ ['a']) =
      [0xd800, 0x10ffff, 0xfd800, 0x61] := by decide

end TensorLogic.Text
