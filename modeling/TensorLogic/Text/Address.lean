/-
Module: TensorLogic.Text.Address
Purpose: Leaving addresses out of reports.
Main exports: withoutAddresses
-/

namespace TensorLogic.Text

/-!
The address of an object says nothing to a reader and differs from run to run, so a report leaves it out.
An address is recognised by its form, wherever it stands: `0x` and at least six hexadecimal digits in
lower case.  The `0x` remains as a sign that something was left out.
-/

/-- Whether a character is a digit of an address. -/
def isAddressDigit (character : Char) : Bool :=
  character.isDigit || ('a' ≤ character && character ≤ 'f')

/-- An address has at least this many digits. -/
def addressLength : Nat := 6

/-- The text without the digits of its addresses, each of which extends as far as it can. -/
def withoutAddresses : List Char → List Char
  | '0' :: 'x' :: rest =>
      if addressLength ≤ (rest.takeWhile isAddressDigit).length then
        '0' :: 'x' :: withoutAddresses (rest.dropWhile isAddressDigit)
      else '0' :: withoutAddresses ('x' :: rest)
  | character :: rest => character :: withoutAddresses rest
  | [] => []
termination_by text => text.length
decreasing_by
  · have shorter := (List.dropWhile_sublist (l := rest) isAddressDigit).length_le
    simp only [List.length_cons]
    omega
  all_goals simp

/-- Five digits are no address, and digits in upper case are none. -/
example :
    withoutAddresses "<0x1234567>".toList = "<0x>".toList ∧
      withoutAddresses "0x12345g".toList = "0x12345g".toList ∧
      withoutAddresses "0xABCDEF".toList = "0xABCDEF".toList := by
  decide +kernel

end TensorLogic.Text
