/-
Module: TensorLogic.Text.Quoted
Purpose: Quoted text, in which every character is visible.
Main exports: hexDigits, escapeCode, escape, quoteMark, quoted
-/
import TensorLogic.Text.CodePoint
import TensorLogic.Text.Printable

namespace TensorLogic.Text

/-!
Messages name labels, tokens and values by a quoted form from which the text can be read back.
The quote mark is a single quote, unless the text holds a single quote and no double quote; then
it is a double quote, and nothing inside needs an escape for its sake.
-/

/-- The last `count` hexadecimal digits of a number, in lower case, with leading zeros. -/
def hexDigits (count value : Nat) : List Char :=
  (List.range count).map fun place =>
    Nat.digitChar (value >>> (4 * (count - 1 - place)) % 16)

/-- A code point by its number, with two, four or eight digits, the fewest that hold it. -/
def escapeCode (code : Nat) : List Char :=
  if code < 0x100 then '\\' :: 'x' :: hexDigits 2 code
  else if code < 0x10000 then '\\' :: 'u' :: hexDigits 4 code
  else '\\' :: 'U' :: hexDigits 8 code

/-- How a unit is written between the given quote marks.  The backslash and the mark are preceded by a
backslash, the three common layout characters have short names, and everything else that is not a
printable character is written by its number. -/
def escape (mark : Char) : List Char → List Char
  | [character] =>
      if character = '\\' || character = mark then ['\\', character]
      else if character = '\n' then ['\\', 'n']
      else if character = '\r' then ['\\', 'r']
      else if character = '\t' then ['\\', 't']
      else if isPrintable character then [character]
      else escapeCode character.toNat
  | unit => escapeCode (codePoint unit)

/-- The mark around a text: double quotes only where they spare an escape. -/
def quoteMark (text : List Char) : Char :=
  if text.contains '\'' && !text.contains '"' then '"' else '\''

/-- The quoted form of a text. -/
def quoted (text : String) : String :=
  let characters := text.toList
  let mark := quoteMark characters
  String.ofList (mark :: (units characters).flatMap (escape mark) ++ [mark])

/-- Single quotes are the rule, double quotes spare an escape, and a text with both kinds needs one. -/
example :
    quoted "ab" = "'ab'" ∧ quoted "it's" = "\"it's\"" ∧ quoted "'\"" = "'\\'\"'" := by decide

/-- The number of digits of an escape depends on the character. -/
example :
    quoted "\n\x07" = "'\\n\\x07'" ∧ quoted "\u200b" = "'\\u200b'" ∧
      quoted (String.ofList (ofCodePoint 0xd800)) = "'\\ud800'" := by decide +kernel

end TensorLogic.Text
