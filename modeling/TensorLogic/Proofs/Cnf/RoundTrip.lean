/-
Module: TensorLogic.Proofs.Cnf.RoundTrip
Purpose: Which formulas are read again from the text that they are written as.
Main exports: Cnf.content_toDimacs, Cnf.spells_toDimacs, Cnf.isPlain_of_spells, Cnf.Short,
  Cnf.ofDimacs_toDimacs, Cnf.Made.round_trip
-/
import TensorLogic.Proofs.Cnf.Instance

namespace TensorLogic

open Text

/-! ## Words that are written -/

theorem Whole.noBlank_text (whole : Whole) : NoBlank whole.text.toList := by
  cases whole with
  | number value => exact noBlank_writeNumeral value
  | truth value => cases value <;> decide

theorem Whole.text_ne_nil (whole : Whole) : whole.text.toList ≠ [] := by
  cases whole with
  | number value => exact writeNumeral_ne_nil value
  | truth value => cases value <;> decide

/-- A number is read as itself, and a truth value is not read as a number. -/
theorem Whole.integer?_text {whole : Whole} {number : Int} :
    integer? whole.text.toList = some number ↔ whole = .number number := by
  cases whole with
  | number value =>
      rw [Whole.text, integer?_writeNumeral, Option.some.injEq, Whole.number.injEq]
  | truth value =>
      have unread : ∀ value : Bool, integer? (Whole.truth value).text.toList = none := by decide
      rw [unread]
      exact iff_of_false (fun same => by cases same) (fun same => by cases same)

theorem Whole.noComment_text (whole : Whole) : 'c' ∉ whole.text.toList := by
  cases whole with
  | number value => exact fun inside => absurd (mem_writeNumeral inside) (by decide)
  | truth value => cases value <;> decide

namespace Cnf

/-- Lines that are joined by a line break are cut apart again. -/
theorem content_intercalate {pieces : List (List Char)}
    (each : ∀ piece ∈ pieces, NoBreak piece ∧ isContent (strip piece) = true) :
    content (['\n'].intercalate pieces) = pieces.map strip := by
  have alone : ∀ piece ∈ pieces, content piece = [strip piece] := fun piece member => by
    obtain ⟨whole, filled⟩ := each piece member
    rw [content_of_noBreak whole, List.filter_cons, if_pos filled]
    rfl
  have separates : ∀ before after,
      content (before ++ ['\n'] ++ after) = content before ++ content after := fun before after => by
    rw [List.append_assoc, List.singleton_append, content_append_break (by decide)]
  calc content (['\n'].intercalate pieces)
      = pieces.flatMap content := cut_intercalate rfl separates pieces
    _ = pieces.flatMap fun piece => [strip piece] := List.flatMap_congr alone
    _ = pieces.map strip := List.flatMap_pure_eq_map strip pieces

/-! ## The lines of a formula -/

/-- The words of a line for a clause. -/
def clauseWords (clause : WrittenClause) : List (List Char) :=
  (clause ++ [0] : List Whole).map fun literal => literal.text.toList

/-- The words of the first line. -/
def headerWords (cnf : Cnf) : List (List Char) :=
  [['p'], ['c', 'n', 'f'], cnf.numVars.text.toList, (writeNumeral cnf.clauses.length).toList]

/-- The words of a clause are not empty, and have no blanks in them. -/
theorem solid_clauseWords (clause : WrittenClause) :
    ∀ word ∈ clauseWords clause, NoBlank word ∧ word ≠ [] := by
  intro word member
  obtain ⟨literal, _, rfl⟩ := List.mem_map.1 member
  exact ⟨literal.noBlank_text, literal.text_ne_nil⟩

theorem solid_headerWords (cnf : Cnf) : ∀ word ∈ cnf.headerWords, NoBlank word ∧ word ≠ [] := by
  intro word member
  simp only [headerWords, List.mem_cons, List.not_mem_nil, or_false] at member
  rcases member with rfl | rfl | rfl | rfl
  · decide
  · decide
  · exact ⟨Whole.noBlank_text _, Whole.text_ne_nil _⟩
  · exact ⟨noBlank_writeNumeral _, writeNumeral_ne_nil _⟩

theorem toList_clauseLine (clause : WrittenClause) :
    (clauseLine clause).toList = [' '].intercalate (clauseWords clause) := by
  rw [clauseLine, String.toList_intercalate, List.map_map]
  rfl

theorem toList_headerLine (cnf : Cnf) :
    cnf.headerLine.toList = [' '].intercalate cnf.headerWords := by
  simp [headerLine, headerWords, String.toList_append, List.intercalate_cons_cons]

/-- A clause that is written is cut into its words again. -/
theorem words_clauseLine (clause : WrittenClause) :
    words (clauseLine clause).toList = clauseWords clause := by
  rw [toList_clauseLine, words_intercalate (solid_clauseWords clause)]

/-- A header that is written is cut into its words again. -/
theorem words_headerLine (cnf : Cnf) : words cnf.headerLine.toList = cnf.headerWords := by
  rw [toList_headerLine, words_intercalate cnf.solid_headerWords]

/-- A clause is written on a line with content. -/
theorem clauseLine_filled (clause : WrittenClause) :
    NoBreak (clauseLine clause).toList ∧ isContent (strip (clauseLine clause).toList) = true := by
  constructor
  · rw [toList_clauseLine]
    exact noBreak_intercalate fun word member => (solid_clauseWords clause word member).1.noBreak
  · have begins : ∃ (first : Whole) (others : List Whole),
        (clause ++ [0] : List Whole) = first :: others := by
      cases clause with
      | nil => exact ⟨0, [], rfl⟩
      | cons first others => exact ⟨first, others ++ [0], rfl⟩
    obtain ⟨first, others, isClause⟩ := begins
    have isWords := words_clauseLine clause
    rw [clauseWords, isClause, List.map_cons] at isWords
    have noComment := first.noComment_text
    cases isText : first.text.toList with
    | nil => exact absurd isText first.text_ne_nil
    | cons letter letters =>
        rw [isText] at isWords noComment
        exact isContent_strip_iff.2 ⟨letter, letters, _, isWords,
          fun same => noComment (by rw [same]; exact List.mem_cons_self)⟩

theorem headerLine_filled (cnf : Cnf) :
    NoBreak cnf.headerLine.toList ∧ isContent (strip cnf.headerLine.toList) = true := by
  constructor
  · rw [toList_headerLine]
    exact noBreak_intercalate fun word member => (cnf.solid_headerWords word member).1.noBreak
  · exact isContent_strip_iff.2 ⟨'p', [], _, words_headerLine cnf, by decide⟩

/-- The content of the text of a formula are its lines. -/
theorem content_toDimacs (cnf : Cnf) :
    content cnf.toDimacs.toList =
      strip cnf.headerLine.toList :: cnf.clauses.map fun clause => strip (clauseLine clause).toList := by
  have isText : cnf.toDimacs.toList = ['\n'].intercalate
      (cnf.headerLine.toList :: cnf.clauses.map fun clause => (clauseLine clause).toList) := by
    rw [toDimacs, String.toList_intercalate, List.map_cons, List.map_map]
    rfl
  rw [isText, content_intercalate, List.map_cons, List.map_map]
  · rfl
  · intro piece member
    rcases List.mem_cons.1 member with rfl | member
    · exact cnf.headerLine_filled
    · obtain ⟨clause, _, rfl⟩ := List.mem_map.1 member
      exact clauseLine_filled clause

/-- The words behind the header are the literals, each clause ended by a zero. -/
theorem tokens_toDimacs (cnf : Cnf) :
    (cnf.clauses.map fun clause => strip (clauseLine clause).toList).flatMap words =
      cnf.clauses.flatMap clauseWords := by
  rw [List.flatMap_map]
  simp only [words_strip, words_clauseLine]

/-! ## Formulas in numbers -/

/-- A number that is written is a word of digits that is worth it. -/
theorem isDecimal_writeNumeral (number : Nat) : IsDecimal (writeNumeral number).toList number := by
  change IsDecimal (String.ofList (Nat.toDigits 10 number)).toList number
  rw [String.toList_ofList]
  exact ⟨Nat.toDigits_ne_nil, isDigit_of_mem_decimal,
    Nat.ofDigitChars_toDigits (by decide) (by decide)⟩

theorem clauseWords_written (clause : Clause) :
    clauseWords clause.written = (clause ++ [0]).map fun literal => (writeNumeral literal).toList := by
  have appended : (clause.written ++ [0] : List Whole) = (clause ++ [0]).map Whole.number := by
    rw [List.map_append]
    rfl
  rw [clauseWords, appended, List.map_map]
  rfl

/-- The words of the clauses are their literals, each clause followed by a zero. -/
theorem tokens_ofNumbers (numVars : Nat) (clauses : Formula) :
    (ofNumbers numVars clauses).clauses.flatMap clauseWords =
      (clauses.flatMap (· ++ [0])).map fun literal => (writeNumeral literal).toList := by
  rw [ofNumbers, List.flatMap_map, List.map_flatMap]
  simp only [clauseWords_written]

/-- A formula in numbers is spelled by the text that it is written as. -/
theorem spells_toDimacs {numVars : Nat} {clauses : Formula} (isOver : clauses.IsOver numVars) :
    Spells (ofNumbers numVars clauses).toDimacs.toList numVars clauses := by
  refine ⟨_, _, content_toDimacs _, ?_, ?_, isOver⟩
  · refine isHeader_of_words (strip_strip _) ((words_strip _).trans (words_headerLine _))
      (isDecimal_writeNumeral numVars) ?_
    have length : (ofNumbers numVars clauses).clauses.length = clauses.length := List.length_map _
    rw [length]
    exact isDecimal_writeNumeral clauses.length
  · rw [tokens_toDimacs, tokens_ofNumbers, List.map_map]
    exact List.map_congr_left fun literal _ => integer?_writeNumeral literal

/-- Numbers of variables and clauses that can be read as they are written. -/
structure Short (cnf : Cnf) : Prop where
  numVars : cnf.numVars.value < 10 ^ digitLimit
  clauses : cnf.clauses.length < 10 ^ digitLimit

/-- Numbers of one digit are within the limit. -/
theorem lt_pow_digitLimit {number : Nat} (small : number < 10) : number < 10 ^ digitLimit :=
  Nat.lt_of_lt_of_le small (Nat.le_self_pow (by decide) 10)

/-- A formula in numbers is written within the limit. -/
theorem withinLimit_toDimacs {numVars : Nat} {clauses : Formula} (isOver : clauses.IsOver numVars)
    (short : (ofNumbers numVars clauses).Short) :
    WithinLimit (ofNumbers numVars clauses).toDimacs.toList := by
  intro line member word inLine
  rw [content_toDimacs] at member
  rcases List.mem_cons.1 member with rfl | member
  · rw [words_strip, words_headerLine] at inLine
    simp only [headerWords, List.mem_cons, List.not_mem_nil, or_false] at inLine
    rcases inLine with rfl | rfl | rfl | rfl
    · decide
    · decide
    · exact digitCount_writeNumeral_le short.numVars
    · exact digitCount_writeNumeral_le short.clauses
  · have inWords := List.mem_flatMap.2 ⟨line, member, inLine⟩
    rw [tokens_toDimacs, tokens_ofNumbers] at inWords
    obtain ⟨literal, inEnded, rfl⟩ := List.mem_map.1 inWords
    refine digitCount_writeNumeral_le (Nat.lt_of_le_of_lt ?_ short.numVars)
    obtain ⟨clause, inFormula, inClause⟩ := List.mem_flatMap.1 inEnded
    rcases List.mem_append.1 inClause with inClause | isZero
    · exact (isOver clause inFormula literal inClause).2
    · rw [List.mem_singleton.1 isZero]
      exact Nat.zero_le _

/-- Plain formulas are read again from the text that they are written as. -/
theorem ofDimacs_toDimacs {cnf : Cnf} (plain : cnf.IsPlain)
    (isOver : cnf.formula.IsOver cnf.numVars.value) (short : cnf.Short) :
    ofDimacs cnf.toDimacs = .ok cnf := by
  rw [plain.eq_ofNumbers] at short ⊢
  exact ofDimacs_eq_ok_iff.2 ⟨_, _, rfl, spells_toDimacs isOver, withinLimit_toDimacs isOver short⟩

/-! ## Truth values in place of numbers -/

/-- A truth value is not written in digits, so that it cannot be read as a number. -/
theorem not_isDecimal_truth (value : Bool) (number : Nat) :
    ¬IsDecimal (Whole.truth value).text.toList number := by
  rintro ⟨_, digits, _⟩
  cases value with
  | false => exact absurd (digits 'F' (by decide)) (by decide)
  | true => exact absurd (digits 'T' (by decide)) (by decide)

/-- A text that is read as any formula was written for a plain one. -/
theorem isPlain_of_spells {cnf : Cnf} {numVars : Nat} {clauses : Formula}
    (spells : Spells cnf.toDimacs.toList numVars clauses) : cnf.IsPlain := by
  obtain ⟨header, body, isContent, isHeader, tokens, _⟩ := spells
  rw [content_toDimacs] at isContent
  obtain ⟨rfl, rfl⟩ := List.cons.inj isContent
  constructor
  · obtain ⟨variablesWord, clausesWord, isCut, decimal, _⟩ := isHeader.words_eq
    rw [words_strip, words_headerLine, headerWords] at isCut
    simp only [List.cons.injEq, true_and] at isCut
    rw [← isCut.1] at decimal
    cases isCount : cnf.numVars with
    | number value => rfl
    | truth value =>
        rw [isCount] at decimal
        exact absurd decimal (not_isDecimal_truth value numVars)
  · intro clause inFormula literal inClause
    have isToken : literal.text.toList ∈ cnf.clauses.flatMap clauseWords :=
      List.mem_flatMap.2 ⟨clause, inFormula,
        List.mem_map.2 ⟨literal, List.mem_append_left _ inClause, rfl⟩⟩
    rw [tokens_toDimacs] at tokens
    have isRead := List.mem_map_of_mem (f := integer?) isToken
    rw [tokens] at isRead
    obtain ⟨number, _, isNumber⟩ := List.mem_map.1 isRead
    rw [Whole.integer?_text.1 isNumber.symm, Whole.value_number]

/-- Every formula that there is, if its numbers are short enough to be read, is read again from its text
exactly when it was given in numbers only, and then as itself; in particular every formula that was
read is, and every formula that was drawn over a number of variables given as a number.  Each of them
is accepted, as itself, when it is given by its variables and clauses. -/
theorem Made.round_trip {cnf : Cnf} (made : cnf.Made) (short : cnf.Short) :
    ((∃ same, ofDimacs cnf.toDimacs = .ok same) ↔ cnf.IsPlain) ∧
    (∀ same, ofDimacs cnf.toDimacs = .ok same → same = cnf) ∧
    (∀ text, ofDimacs text = .ok cnf → cnf.IsPlain) ∧
    (∀ parameters draws left, random parameters draws = .ok (cnf, left) →
      (cnf.IsPlain ↔ parameters.numVars = .number parameters.numVars.value)) ∧
    ofData (.ofCount cnf.numVars) (clausesDatum cnf.clauses) = .ok cnf := by
  have isOver := made_iff_isOver.1 made
  have plain_of_ok : ∀ same, ofDimacs cnf.toDimacs = .ok same → cnf.IsPlain := fun same isRead => by
    obtain ⟨_, _, _, spells, _⟩ := ofDimacs_eq_ok_iff.1 isRead
    exact isPlain_of_spells spells
  refine ⟨⟨fun ⟨same, isRead⟩ => plain_of_ok same isRead, fun plain =>
    ⟨cnf, ofDimacs_toDimacs plain isOver short⟩⟩, fun same isRead => ?_, fun text isRead => ?_,
    fun parameters draws left isDrawn => isPlain_random isDrawn, ofData_given isOver⟩
  · have again := ofDimacs_toDimacs (plain_of_ok same isRead) isOver short
    rw [isRead] at again
    exact Except.ok.inj again
  · obtain ⟨numVars, clauses, rfl, _⟩ := ofDimacs_eq_ok_iff.1 isRead
    exact isPlain_ofNumbers numVars clauses

/-- A formula of two clauses, one of them empty, which is given and read again. -/
theorem round_trip_two_clauses :
    let cnf : Cnf := ⟨2, [[1, .number (-2)], []]⟩
    (∃ same, ofDimacs cnf.toDimacs = .ok same) ∧
      ofData (.ofCount cnf.numVars) (clausesDatum cnf.clauses) = .ok cnf := by
  intro cnf
  have accepted :
      ofData (.int 2) (.ofList [.ofList [.int 1, .int (-2)], .ofList []]) = .ok cnf := rfl
  have made : cnf.Made := Made.given accepted
  have short : cnf.Short := ⟨lt_pow_digitLimit (by decide), lt_pow_digitLimit (by decide)⟩
  have plain : cnf.IsPlain := isPlain_ofNumbers 2 [[1, -2], []]
  exact ⟨(Made.round_trip made short).1.2 plain, (Made.round_trip made short).2.2.2.2⟩

/-- A formula over one variable is accepted where the number of variables is given as a truth value.  The
text that it is written as is not read as a formula. -/
theorem truth_not_read :
    ∃ cnf, ofData (.bool true) (.ofList []) = .ok cnf ∧ cnf.Short ∧
      ofDimacs cnf.toDimacs = .error .noHeader :=
  ⟨⟨.truth true, []⟩, rfl, ⟨lt_pow_digitLimit (by decide), lt_pow_digitLimit (by decide)⟩, by
    rfl⟩

end Cnf

end TensorLogic
