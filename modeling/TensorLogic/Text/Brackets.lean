/-
Module: TensorLogic.Text.Brackets
Purpose: How sequences are written.
Main exports: bracketed, tupled, denselyTupled
-/

namespace TensorLogic.Text

/-- A list of written items between square brackets. -/
def bracketed (items : List String) : String :=
  "[" ++ ", ".intercalate items ++ "]"

/-- A list of written items between round brackets.  A single item is followed by a comma, which
tells it from an item in brackets. -/
def tupled (items : List String) : String :=
  match items with
  | [item] => "(" ++ item ++ ",)"
  | _ => "(" ++ ", ".intercalate items ++ ")"

/-- A list of written items between round brackets, without blanks between them.  A single item is
followed by a comma. -/
def denselyTupled (items : List String) : String :=
  match items with
  | [item] => "(" ++ item ++ ",)"
  | _ => "(" ++ ",".intercalate items ++ ")"

/-- A single item is told from an item in brackets by its comma. -/
example : tupled [] = "()" ∧ tupled ["1"] = "(1,)" ∧ tupled ["1", "2"] = "(1, 2)" := by decide

end TensorLogic.Text
