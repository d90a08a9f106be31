/-
Module: TensorLogic.Text.Blank
Purpose: Blank characters, line breaks, and cutting text at them.
Main exports: isBlank, isLineBreak, strip, lines, words
-/

namespace TensorLogic.Text

/-!
Blank characters are those with the Unicode property of white space, together with the four
information separators.  Some of them also end a line; a carriage return directly followed by a
line feed ends one line, not two.
-/

/-- The blank characters: twenty-nine in number. -/
def isBlank (character : Char) : Bool :=
  let code := character.toNat
  (0x09 ≤ code && code ≤ 0x0d) || (0x1c ≤ code && code ≤ 0x20) || code == 0x85 || code == 0xa0 ||
    code == 0x1680 || (0x2000 ≤ code && code ≤ 0x200a) || code == 0x2028 || code == 0x2029 ||
    code == 0x202f || code == 0x205f || code == 0x3000

/-- The characters that end a line.  The unit separator is blank and does not. -/
def isLineBreak (character : Char) : Bool :=
  let code := character.toNat
  (0x0a ≤ code && code ≤ 0x0d) || (0x1c ≤ code && code ≤ 0x1e) || code == 0x85 ||
    code == 0x2028 || code == 0x2029

/-- Every character that ends a line is blank. -/
theorem isBlank_of_isLineBreak {character : Char} (ends : isLineBreak character = true) :
    isBlank character = true := by
  simp only [isLineBreak, isBlank, Bool.or_eq_true, Bool.and_eq_true, decide_eq_true_eq,
    beq_iff_eq] at ends ⊢
  omega

/-- The text without the blanks at its two ends. -/
def strip (text : List Char) : List Char :=
  ((text.dropWhile isBlank).reverse.dropWhile isBlank).reverse

/-- Cut the text after every line break, leaving the breaks out.  The `pending` characters belong
to the line that is being read, the last one first.  A text that ends with a line break has no
further empty line after it. -/
def linesFrom (pending : List Char) : List Char → List (List Char)
  | [] => if pending.isEmpty then [] else [pending.reverse]
  | '\r' :: '\n' :: rest => pending.reverse :: linesFrom [] rest
  | character :: rest =>
      if isLineBreak character then pending.reverse :: linesFrom [] rest
      else linesFrom (character :: pending) rest

/-- The lines of a text. -/
def lines (text : List Char) : List (List Char) := linesFrom [] text

/-- Cut the text at every run of blanks.  The `pending` characters belong to the word that is
being read, the last one first. -/
def wordsFrom (pending : List Char) : List Char → List (List Char)
  | [] => if pending.isEmpty then [] else [pending.reverse]
  | character :: rest =>
      if isBlank character then
        if pending.isEmpty then wordsFrom [] rest else pending.reverse :: wordsFrom [] rest
      else wordsFrom (character :: pending) rest

/-- The words of a text: its longest runs of characters that are not blank. -/
def words (text : List Char) : List (List Char) := wordsFrom [] text

/-- A carriage return and a line feed end one line together, and the last line break ends the text. -/
example : lines "a\r\n\nb\n".toList = ["a".toList, [], "b".toList] := by decide

/-- Runs of blanks separate words, and blanks at the ends of a text belong to none. -/
example : words " ab\t\n c ".toList = ["ab".toList, "c".toList] := by decide

end TensorLogic.Text
