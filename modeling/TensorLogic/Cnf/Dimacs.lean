/-
Module: TensorLogic.Cnf.Dimacs
Purpose: Formulas written as text and read from it.
Main exports: Cnf.toDimacs, Cnf.ofDimacs, Cnf.contentLines, Cnf.header?, Cnf.splitClauses
-/
import TensorLogic.Cnf.Basic

namespace TensorLogic.Cnf

/-!
The text begins with a line `p cnf N M` for `N` variables and `M` clauses.  The literals of all clauses
follow, each clause ended by a zero.  Blank lines and lines that begin with the letter `c` may stand
anywhere, and the literals may be broken into lines at will.
-/

/-! ### Writing -/

/-- A clause on a line of its own, ended by a zero. -/
def clauseLine (clause : WrittenClause) : String :=
  " ".intercalate ((clause ++ [0]).map Whole.text)

/-- The line that a text begins with. -/
def headerLine (cnf : Cnf) : String :=
  "p cnf " ++ cnf.numVars.text ++ " " ++ Text.writeNumeral cnf.clauses.length

/-- A formula as text, without a line break at the end. -/
def toDimacs (cnf : Cnf) : String :=
  "\n".intercalate (cnf.headerLine :: cnf.clauses.map clauseLine)

/-! ### Reading -/

/-- The lines that carry content, without the blanks at their ends. -/
def contentLines (text : List Char) : List (List Char) :=
  ((Text.lines (Text.strip text)).map Text.strip).filter fun line =>
    !line.isEmpty && line.head? != some 'c'

/-- Whether a word consists of ASCII digits. -/
def isPlainNumber (word : List Char) : Bool := !word.isEmpty && word.all Char.isDigit

/-- The numbers of variables and clauses in the first line, as they are written there. -/
def header? (line : List Char) : Option (List Char × List Char) :=
  match Text.words line with
  | [['p'], ['c', 'n', 'f'], numVars, count] =>
      if isPlainNumber numVars && isPlainNumber count then some (numVars, count) else none
  | _ => none

/-- Cut a sequence of numbers at its zeros: the clauses that are ended by one, and the literals after
the last zero.  The `pending` literals belong to the clause that is being read, the last one first. -/
def splitFrom (pending : List Int) : List Int → List Clause × List Int
  | [] => ([], pending.reverse)
  | literal :: literals =>
      if literal = 0 then
        let (clauses, rest) := splitFrom [] literals
        (pending.reverse :: clauses, rest)
      else splitFrom (literal :: pending) literals

/-- Cut a sequence of numbers at its zeros. -/
def splitClauses (literals : List Int) : List Clause × List Int := splitFrom [] literals

/-- The formula that a text stands for. -/
def ofDimacs (text : String) : Except Fault Cnf := do
  match contentLines text.toList with
  | [] => .error .noHeader
  | first :: rest =>
      match header? first with
      | none => .error .noHeader
      | some (numVars, count) => do
          let total ← readToken numVars
          let promised ← readToken count
          let literals ← (rest.flatMap Text.words).mapM readToken
          let (clauses, unended) := splitClauses literals
          if !unended.isEmpty then .error .openClause
          else if (clauses.length : Int) ≠ promised then .error .clauseTotal
          else ofClauses total (clauses.map Clause.written)

/-- An empty clause is a zero on a line of its own. -/
example : toDimacs ⟨2, [[1, .number (-2)], []]⟩ = "p cnf 2 2\n1 -2 0\n0" := by decide

/-- Clauses are cut at their zeros, not at the ends of lines. -/
example :
    (ofDimacs "c no clause\np  cnf 2 2\n1\nc none either\n-2 0 0").toOption =
      some ⟨2, [[1, .number (-2)], []]⟩ := by decide

end TensorLogic.Cnf
