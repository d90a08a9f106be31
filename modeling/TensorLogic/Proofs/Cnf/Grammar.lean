/-
Module: TensorLogic.Proofs.Cnf.Grammar
Purpose: The texts that are read as a formula, by a grammar, and what of their layout does not matter.
Main exports: Cnf.content, Cnf.IsHeader, Cnf.Spells, Cnf.WithinLimit, Cnf.ofDimacs_eq_ok_iff,
  Cnf.Relaid, Cnf.ofDimacs_decided
-/
import Mathlib.Logic.Relation
import Mathlib.Tactic.Tauto
import TensorLogic.Cnf.Dimacs
import TensorLogic.Proofs.Text.Numeral

namespace TensorLogic

namespace Cnf

open Text

/-! ## The lines with content -/

/-- Whether a line without blanks at its ends is more than a comment. -/
def isContent (line : List Char) : Bool := !line.isEmpty && line.head? != some 'c'

/-- The lines of a text, without the blanks at their ends, apart from blank lines and comments. -/
def content (text : List Char) : List (List Char) := ((lines text).map strip).filter isContent

theorem filter_content (pieces : List (List Char)) :
    pieces.filter isContent = (pieces.filter isFilled).filter isContent := by
  rw [List.filter_filter]
  refine List.filter_congr fun piece _ => ?_
  cases piece <;> simp [isContent, isFilled]

theorem content_eq (text : List Char) : content text = (filledLines text).filter isContent := by
  rw [content, filter_content, filter_lines]

/-- The blanks at the ends of the whole text need not be removed first. -/
theorem contentLines_eq (text : List Char) : contentLines text = content text := by
  have same : contentLines text = content (strip text) := rfl
  rw [same, content_eq, filledLines_strip, ← content_eq]

/-- Lines are cut at a break, so that the content on both sides of it is listed in turn. -/
theorem content_append_break {ends : Char} (isOne : isLineBreak ends = true)
    (text rest : List Char) : content (text ++ ends :: rest) = content text ++ content rest := by
  simp only [content_eq, filledLines_append_break isOne, List.filter_append]

/-- A text without a break is one line, which counts if it has content. -/
theorem content_of_noBreak {line : List Char} (whole : NoBreak line) :
    content line = [strip line].filter isContent := by
  rw [content_eq, filledLines_of_noBreak whole, ← filter_content]

/-- A line with content begins, apart from blanks, with a word that no comment begins with. -/
theorem isContent_strip_iff {line : List Char} :
    isContent (strip line) = true ↔
      ∃ first tail others, words line = (first :: tail) :: others ∧ first ≠ 'c' := by
  rw [← words_strip line]
  cases begins : strip line with
  | nil => simp [isContent, words, wordsFrom]
  | cons first rest =>
      obtain ⟨tail, others, isWord⟩ := words_cons (solid_head_strip begins) rest
      rw [isWord]
      simp [isContent]

/-! ## The header -/

/-- A number in decimal digits, with any number of leading zeros. -/
def IsDecimal (word : List Char) (number : Nat) : Prop :=
  word ≠ [] ∧ (∀ character ∈ word, character.isDigit = true) ∧ Nat.ofDigitChars 10 word 0 = number

/-- At least one blank. -/
def IsGap (gap : List Char) : Prop := gap ≠ [] ∧ AllBlank gap

instance (gap : List Char) : Decidable (IsGap gap) := inferInstanceAs (Decidable (_ ∧ _))

/-- A line `p cnf N M` for numbers of variables and clauses. -/
def IsHeader (line : List Char) (numVars count : Nat) : Prop :=
  ∃ first second third variablesWord clausesWord,
    line = ['p'] ++ first ++ ['c', 'n', 'f'] ++ second ++ variablesWord ++ third ++ clausesWord ∧
      IsGap first ∧ IsGap second ∧ IsGap third ∧
      IsDecimal variablesWord numVars ∧ IsDecimal clausesWord count

/-- A plain number is a word of digits, and is worth what these are. -/
theorem isPlainNumber_iff {word : List Char} :
    isPlainNumber word = true ↔ IsDecimal word (Nat.ofDigitChars 10 word 0) := by
  simp [isPlainNumber, IsDecimal]

theorem IsDecimal.words_eq {word : List Char} {number : Nat} (decimal : IsDecimal word number) :
    words word = [word] :=
  words_eq_singleton (noBlank_of_isDigit decimal.2.1) decimal.1

/-- A header has four words, the last two of which are its numbers. -/
theorem IsHeader.words_eq {line : List Char} {numVars count : Nat}
    (header : IsHeader line numVars count) :
    ∃ variablesWord clausesWord,
      words line = [['p'], ['c', 'n', 'f'], variablesWord, clausesWord] ∧
        IsDecimal variablesWord numVars ∧ IsDecimal clausesWord count := by
  obtain ⟨first, second, third, variablesWord, clausesWord, rfl, gapFirst, gapSecond, gapThird,
    variablesDecimal, clausesDecimal⟩ := header
  refine ⟨variablesWord, clausesWord, ?_, variablesDecimal, clausesDecimal⟩
  rw [words_append_gap gapThird.2 gapThird.1, words_append_gap gapSecond.2 gapSecond.1,
    words_append_gap gapFirst.2 gapFirst.1, variablesDecimal.words_eq, clausesDecimal.words_eq]
  rfl

/-- A stripped line of those four words is a header. -/
theorem isHeader_of_words {line variablesWord clausesWord : List Char} {numVars count : Nat}
    (stripped : strip line = line)
    (isCut : words line = [['p'], ['c', 'n', 'f'], variablesWord, clausesWord])
    (variablesDecimal : IsDecimal variablesWord numVars) (clausesDecimal : IsDecimal clausesWord count) :
    IsHeader line numVars count := by
  obtain ⟨lead, afterP, rfl, blankLead, startsP, isAfterP⟩ := words_eq_cons isCut
  obtain ⟨first, afterCnf, rfl, gapFirst, blankFirst, startsCnf, isAfterCnf⟩ :=
    words_eq_cons_of_startsBlank startsP isAfterP
  obtain ⟨second, afterVariables, rfl, gapSecond, blankSecond, startsVariables, isAfterVariables⟩ :=
    words_eq_cons_of_startsBlank startsCnf isAfterCnf
  obtain ⟨third, trail, rfl, gapThird, blankThird, _, isTrail⟩ :=
    words_eq_cons_of_startsBlank startsVariables isAfterVariables
  -- The line has no blanks at its ends.
  have noLead : lead = [] := by
    cases lead with
    | nil => rfl
    | cons blank lead =>
        have solid := solid_head_strip stripped
        rw [blankLead blank List.mem_cons_self] at solid
        cases solid
  have noTrail : trail = [] := by
    rcases List.eq_nil_or_concat trail with rfl | ⟨before, blank, rfl⟩
    · rfl
    · rw [List.concat_eq_append] at stripped isTrail
      simp only [← List.append_assoc] at stripped
      have solid := solid_last_strip stripped
      rw [allBlank_of_words isTrail blank (by simp)] at solid
      cases solid
  subst noLead noTrail
  exact ⟨first, second, third, variablesWord, clausesWord, by simp, ⟨gapFirst, blankFirst⟩,
    ⟨gapSecond, blankSecond⟩, ⟨gapThird, blankThird⟩, variablesDecimal, clausesDecimal⟩

/-- The words of a header are found exactly in a line of four words that are right. -/
theorem header?_eq_some_iff {line variablesWord clausesWord : List Char} :
    header? line = some (variablesWord, clausesWord) ↔
      words line = [['p'], ['c', 'n', 'f'], variablesWord, clausesWord] ∧
        isPlainNumber variablesWord = true ∧ isPlainNumber clausesWord = true := by
  unfold header?
  split
  case h_1 numVars count isCut =>
    rw [isCut]
    simp only [Bool.and_eq_true, Option.ite_none_right_eq_some, Option.some.injEq, Prod.mk.injEq,
      List.cons.injEq, true_and, and_true]
    constructor
    · rintro ⟨plain, rfl, rfl⟩
      exact ⟨⟨rfl, rfl⟩, plain⟩
    · rintro ⟨⟨rfl, rfl⟩, plain⟩
      exact ⟨plain, rfl, rfl⟩
  case h_2 other =>
    exact iff_of_false (fun found => by cases found) fun ⟨isCut, _⟩ => other _ _ isCut

/-- The first line is recognised as a header exactly when it is one. -/
theorem isHeader_iff {line : List Char} (stripped : strip line = line) {numVars count : Nat} :
    IsHeader line numVars count ↔
      ∃ variablesWord clausesWord, header? line = some (variablesWord, clausesWord) ∧
        IsDecimal variablesWord numVars ∧ IsDecimal clausesWord count := by
  constructor
  · intro header
    obtain ⟨variablesWord, clausesWord, isCut, variablesDecimal, clausesDecimal⟩ := header.words_eq
    refine ⟨variablesWord, clausesWord, ?_, variablesDecimal, clausesDecimal⟩
    rw [header?_eq_some_iff, isPlainNumber_iff, isPlainNumber_iff]
    exact ⟨isCut, ⟨variablesDecimal.1, variablesDecimal.2.1, rfl⟩,
      ⟨clausesDecimal.1, clausesDecimal.2.1, rfl⟩⟩
  · rintro ⟨variablesWord, clausesWord, found, variablesDecimal, clausesDecimal⟩
    exact isHeader_of_words stripped (header?_eq_some_iff.1 found).1 variablesDecimal clausesDecimal

/-! ## The clauses -/

/-- The literals of clauses, each clause ended by a zero. -/
def ended (clauses : List Clause) : List Int := clauses.flatMap (· ++ [0])

/-- Cutting at the zeros loses nothing. -/
theorem ended_splitFrom (pending literals : List Int) :
    ended (splitFrom pending literals).1 ++ (splitFrom pending literals).2 =
      pending.reverse ++ literals := by
  induction literals generalizing pending with
  | nil => simp [splitFrom, ended]
  | cons literal literals hypothesis =>
      rw [splitFrom]
      split
      case isTrue isZero =>
        have rest := hypothesis []
        simp only [ended, List.reverse_nil, List.nil_append] at rest
        simp only [ended, List.flatMap_cons, List.append_assoc, rest, isZero]
        rfl
      case isFalse =>
        rw [hypothesis, List.reverse_cons, List.append_assoc]
        rfl

/-- The first zero ends the clause that is being read. -/
theorem splitFrom_clause {clause : Clause} (noZero : 0 ∉ clause) (pending rest : List Int) :
    splitFrom pending (clause ++ 0 :: rest) =
      ((pending.reverse ++ clause) :: (splitClauses rest).1, (splitClauses rest).2) := by
  induction clause generalizing pending with
  | nil => simp [splitFrom, splitClauses]
  | cons literal clause hypothesis =>
      have isLiteral : literal ≠ 0 := fun isZero => noZero (by rw [isZero]; exact List.mem_cons_self)
      have others : 0 ∉ clause := fun member => noZero (List.mem_cons_of_mem _ member)
      rw [List.cons_append, splitFrom, if_neg isLiteral, hypothesis others]
      simp

/-- Clauses without zeros are found again between the zeros. -/
theorem splitClauses_ended {clauses : List Clause} (noZero : ∀ clause ∈ clauses, 0 ∉ clause) :
    splitClauses (ended clauses) = (clauses, []) := by
  induction clauses with
  | nil => rfl
  | cons clause clauses hypothesis =>
      have rest := hypothesis fun other member => noZero other (List.mem_cons_of_mem _ member)
      have isEnded : ended (clause :: clauses) = clause ++ 0 :: ended clauses := by
        simp [ended]
      rw [isEnded, splitClauses, splitFrom_clause (noZero clause List.mem_cons_self), rest]
      rfl

/-- Clauses without zeros are what stands between the zeros exactly when they are written so. -/
theorem splitClauses_eq_iff {literals : List Int} {clauses : List Clause}
    (noZero : ∀ clause ∈ clauses, 0 ∉ clause) :
    splitClauses literals = (clauses, []) ↔ literals = ended clauses := by
  constructor
  · intro split
    have nothingLost := ended_splitFrom [] literals
    rw [← splitClauses, split, List.append_nil, List.reverse_nil, List.nil_append] at nothingLost
    exact nothingLost.symm
  · rintro rfl
    exact splitClauses_ended noZero

theorem noZero_of_isOver {numVars : Nat} {formula : Formula} (isOver : formula.IsOver numVars) :
    ∀ clause ∈ formula, 0 ∉ clause := fun clause member isZero =>
  (isOver clause member 0 isZero).1 rfl

theorem literals_map_written (clauses : List Clause) :
    (clauses.map Clause.written).map WrittenClause.literals = clauses := by
  rw [List.map_map]
  exact (List.map_congr_left fun clause _ => Clause.literals_written clause).trans (List.map_id _)

/-- Clauses make up a formula exactly when the number of variables is a count, and they are over these. -/
theorem ofClauses_eq_ok_iff {numVars : Whole} {clauses : List WrittenClause} {cnf : Cnf} :
    ofClauses numVars clauses = .ok cnf ↔
      numVars = cnf.numVars.toWhole ∧ clauses = cnf.clauses ∧ cnf.formula.IsOver cnf.numVars.value := by
  unfold ofClauses
  cases isCount : numVars.count? with
  | none =>
      refine iff_of_false (fun made => by cases made) fun ⟨isWhole, _⟩ => ?_
      rw [Whole.count?_eq_some_iff.2 isWhole] at isCount
      cases isCount
  | some total =>
      have isWhole := Whole.count?_eq_some_iff.1 isCount
      simp only
      split
      case isTrue isOver =>
        constructor
        · intro made
          cases made
          exact ⟨isWhole, rfl, isOver⟩
        · rintro ⟨same, rfl, _⟩
          have isTotal := Whole.count?_eq_some_iff.2 same
          rw [isCount] at isTotal
          cases isTotal
          rfl
      case isFalse notOver =>
        refine iff_of_false (fun made => by cases made) ?_
        rintro ⟨same, rfl, isOver⟩
        have isTotal := Whole.count?_eq_some_iff.2 same
        rw [isCount] at isTotal
        cases isTotal
        exact notOver isOver

/-! ## The grammar -/

/-- The texts for a formula.  The first line with content is the header, with the numbers of variables
and of clauses; the words of all other lines with content are the literals of the clauses, each
clause ended by a zero, and the literals are over the variables. -/
def Spells (text : List Char) (numVars : Nat) (clauses : Formula) : Prop :=
  ∃ header body, content text = header :: body ∧ IsHeader header numVars clauses.length ∧
    (body.flatMap words).map integer? = (clauses.flatMap (· ++ [0])).map some ∧
    clauses.IsOver numVars

/-- No word of a text has more digits than can be read. -/
def WithinLimit (text : List Char) : Prop :=
  ∀ line ∈ content text, ∀ word ∈ words line, digitCount word ≤ digitLimit

/-- The formula that a text should be read as. -/
def ofNumbers (numVars : Nat) (clauses : Formula) : Cnf :=
  ⟨.number numVars, clauses.map Clause.written⟩

/-- Clauses of numbers are accepted when they are over a number of variables that is not negative. -/
theorem ofClauses_numbers_eq_ok_iff {total : Int} {clauses : Formula} {cnf : Cnf} :
    ofClauses (.number total) (clauses.map Clause.written) = .ok cnf ↔
      ∃ numVars : Nat, total = numVars ∧ cnf = ofNumbers numVars clauses ∧ clauses.IsOver numVars := by
  rw [ofClauses_eq_ok_iff]
  constructor
  · rintro ⟨isWhole, areClauses, isOver⟩
    obtain ⟨numVars, written⟩ := cnf
    cases numVars with
    | truth => cases isWhole
    | number numVars =>
        cases isWhole
        subst areClauses
        rw [formula, literals_map_written] at isOver
        exact ⟨numVars, rfl, rfl, isOver⟩
  · rintro ⟨numVars, rfl, rfl, isOver⟩
    refine ⟨rfl, rfl, ?_⟩
    rw [formula, ofNumbers, literals_map_written]
    exact isOver

/-- Words are read as numbers exactly when each of them is one, and is not too long. -/
theorem readTokens_eq_ok_iff {tokens : List (List Char)} (solid : ∀ token ∈ tokens, NoBlank token)
    {literals : List Int} :
    tokens.mapM readToken = .ok literals ↔
      tokens.map integer? = literals.map some ∧ ∀ token ∈ tokens, digitCount token ≤ digitLimit := by
  rw [Outcome.mapM_eq_ok_iff]
  induction tokens generalizing literals with
  | nil => cases literals <;> simp
  | cons token tokens hypothesis =>
      have rest := fun literals => @hypothesis
        (fun other member => solid other (List.mem_cons_of_mem _ member)) literals
      cases literals with
      | nil => simp
      | cons literal literals =>
          rw [List.forall₂_cons, rest, readToken_eq_ok_iff (solid token List.mem_cons_self)]
          simp only [List.map_cons, List.cons.injEq, List.forall_mem_cons]
          tauto

/-- A word of digits is read as its number, as long as it is not too long. -/
theorem readToken_of_isDecimal {word : List Char} {number : Nat} (decimal : IsDecimal word number)
    {result : Int} :
    readToken word = .ok result ↔ result = number ∧ digitCount word ≤ digitLimit := by
  obtain ⟨nonempty, digits, rfl⟩ := decimal
  rw [readToken_eq_ok_iff (noBlank_of_isDigit digits), integer?_of_isDigit nonempty digits,
    Option.some.injEq, eq_comm]

/-- The numbers of a header are read exactly when they are not too long. -/
theorem readHeader_iff {line : List Char} (stripped : strip line = line) {total promised : Int} :
    (∃ variablesWord clausesWord, header? line = some (variablesWord, clausesWord) ∧
        readToken variablesWord = .ok total ∧ readToken clausesWord = .ok promised) ↔
      ∃ numVars count : Nat, total = numVars ∧ promised = count ∧ IsHeader line numVars count ∧
        ∀ word ∈ words line, digitCount word ≤ digitLimit := by
  have limited : ∀ {variablesWord clausesWord : List Char},
      words line = [['p'], ['c', 'n', 'f'], variablesWord, clausesWord] →
      ((∀ word ∈ words line, digitCount word ≤ digitLimit) ↔
        digitCount variablesWord ≤ digitLimit ∧ digitCount clausesWord ≤ digitLimit) := by
    intro variablesWord clausesWord isCut
    have short : digitCount ['p'] ≤ digitLimit ∧ digitCount ['c', 'n', 'f'] ≤ digitLimit := by decide
    simp [isCut, short]
  constructor
  · rintro ⟨variablesWord, clausesWord, found, isTotal, isPromised⟩
    obtain ⟨isCut, plainVariables, plainClauses⟩ := header?_eq_some_iff.1 found
    have variablesDecimal := isPlainNumber_iff.1 plainVariables
    have clausesDecimal := isPlainNumber_iff.1 plainClauses
    obtain ⟨isVariables, shortVariables⟩ := (readToken_of_isDecimal variablesDecimal).1 isTotal
    obtain ⟨isClauses, shortClauses⟩ := (readToken_of_isDecimal clausesDecimal).1 isPromised
    have header := (isHeader_iff stripped).2 ⟨_, _, found, variablesDecimal, clausesDecimal⟩
    exact ⟨_, _, isVariables, isClauses, header, (limited isCut).2 ⟨shortVariables, shortClauses⟩⟩
  · rintro ⟨numVars, count, rfl, rfl, header, short⟩
    obtain ⟨variablesWord, clausesWord, found, variablesDecimal, clausesDecimal⟩ :=
      (isHeader_iff stripped).1 header
    obtain ⟨shortVariables, shortClauses⟩ := (limited (header?_eq_some_iff.1 found).1).1 short
    exact ⟨variablesWord, clausesWord, found,
      (readToken_of_isDecimal variablesDecimal).2 ⟨rfl, shortVariables⟩,
      (readToken_of_isDecimal clausesDecimal).2 ⟨rfl, shortClauses⟩⟩

/-- In a text within the limit, neither the header nor the body has a word that is too long. -/
theorem withinLimit_iff {text header : List Char} {body : List (List Char)}
    (isContent : content text = header :: body) :
    WithinLimit text ↔ (∀ word ∈ words header, digitCount word ≤ digitLimit) ∧
      ∀ token ∈ body.flatMap words, digitCount token ≤ digitLimit := by
  rw [WithinLimit, isContent, List.forall_mem_cons, List.forall_mem_flatMap]

/-- A text is read step by step: the content, the header, the numbers, the clauses and their number. -/
theorem ofDimacs_eq_ok_iff_steps {text : String} {cnf : Cnf} :
    ofDimacs text = .ok cnf ↔
      ∃ header body, content text.toList = header :: body ∧
        ∃ total promised, (∃ variablesWord clausesWord,
          header? header = some (variablesWord, clausesWord) ∧
          readToken variablesWord = .ok total ∧ readToken clausesWord = .ok promised) ∧
        ∃ literals, (body.flatMap words).mapM readToken = .ok literals ∧
          ∃ clauses, splitClauses literals = (clauses, []) ∧ (clauses.length : Int) = promised ∧
            ofClauses (.number total) (clauses.map Clause.written) = .ok cnf := by
  unfold ofDimacs
  rw [contentLines_eq]
  cases content text.toList with
  | nil => simp
  | cons header body =>
      dsimp only
      cases isHeader : header? header with
      | none => simp [isHeader]
      | some found =>
          obtain ⟨variablesWord, clausesWord⟩ := found
          simp only [Outcome.bind_eq_ok_iff]
          constructor
          · rintro ⟨total, isTotal, promised, isPromised, literals, areLiterals, made⟩
            refine ⟨header, body, rfl, total, promised,
              ⟨variablesWord, clausesWord, isHeader, isTotal, isPromised⟩, literals, areLiterals, ?_⟩
            rcases isSplit : splitClauses literals with ⟨clauses, unended⟩
            simp only [isSplit] at made
            split at made
            · cases made
            · rename_i allEnded
              split at made
              · cases made
              · rename_i asMany
                exact ⟨clauses, by simpa using allEnded, not_not.1 asMany, made⟩
          · rintro ⟨_, _, same, total, promised, ⟨_, _, found, isTotal, isPromised⟩, literals,
              areLiterals, clauses, split, asMany, made⟩
            cases same
            rw [isHeader] at found
            cases found
            refine ⟨total, isTotal, promised, isPromised, literals, areLiterals, ?_⟩
            rw [split]
            simpa [asMany] using made

theorem strip_of_mem_content {text line : List Char} (member : line ∈ content text) :
    strip line = line := by
  obtain ⟨piece, _, rfl⟩ := List.mem_map.1 (List.mem_filter.1 member).1
  exact strip_strip piece

/-- A text is read as a formula exactly when it is a text for this formula, apart from the limit on the
digits of a number. -/
theorem ofDimacs_eq_ok_iff {text : String} {cnf : Cnf} :
    ofDimacs text = .ok cnf ↔
      ∃ numVars clauses, cnf = ofNumbers numVars clauses ∧ Spells text.toList numVars clauses ∧
        WithinLimit text.toList := by
  rw [ofDimacs_eq_ok_iff_steps]
  have solid : ∀ body : List (List Char), ∀ token ∈ body.flatMap words, NoBlank token :=
    fun body token member => by
      obtain ⟨line, _, inLine⟩ := List.mem_flatMap.1 member
      exact (solid_of_mem_words inLine).1
  have stripped : ∀ {header body}, content text.toList = header :: body → strip header = header :=
    fun isContent => strip_of_mem_content (by rw [isContent]; exact List.mem_cons_self)
  constructor
  · rintro ⟨header, body, isContent, total, promised, headerRead, literals, areLiterals, clauses, split,
      asMany, made⟩
    obtain ⟨numVars, rfl, rfl, isOver⟩ := ofClauses_numbers_eq_ok_iff.1 made
    obtain ⟨_, _, isTotal, rfl, header, shortHeader⟩ := (readHeader_iff (stripped isContent)).1 headerRead
    obtain ⟨areRead, short⟩ := (readTokens_eq_ok_iff (solid body)).1 areLiterals
    cases Int.ofNat_inj.1 isTotal
    cases Int.ofNat_inj.1 asMany
    rw [(splitClauses_eq_iff (noZero_of_isOver isOver)).1 split] at areRead
    exact ⟨numVars, clauses, rfl, ⟨_, body, isContent, header, areRead, isOver⟩,
      (withinLimit_iff isContent).2 ⟨shortHeader, short⟩⟩
  · rintro ⟨numVars, clauses, rfl, ⟨header, body, isContent, isHeader, areRead, isOver⟩, within⟩
    obtain ⟨shortHeader, short⟩ := (withinLimit_iff isContent).1 within
    exact ⟨header, body, isContent, numVars, clauses.length,
      (readHeader_iff (stripped isContent)).2 ⟨_, _, rfl, rfl, isHeader, shortHeader⟩, ended clauses,
      (readTokens_eq_ok_iff (solid body)).2 ⟨areRead, short⟩, clauses,
      (splitClauses_eq_iff (noZero_of_isOver isOver)).2 rfl, rfl,
      ofClauses_numbers_eq_ok_iff.2 ⟨numVars, rfl, rfl, isOver⟩⟩

/-! ## Texts that are refused -/

/-- Clauses that make up no formula are a wrong value. -/
theorem failsAs_ofClauses (numVars : Whole) (clauses : List WrittenClause) :
    FailsAs .value (ofClauses numVars clauses) := by
  unfold ofClauses
  split
  · exact FailsAs.error rfl
  · split
    · exact FailsAs.ok _
    · exact FailsAs.error rfl

/-- A text that is not read as a formula is a wrong value. -/
theorem failsAs_ofDimacs (text : String) : FailsAs .value (ofDimacs text) := by
  unfold ofDimacs
  split
  · exact FailsAs.error rfl
  · split
    · exact FailsAs.error rfl
    · refine (failsAs_readToken _).bind fun total => ?_
      refine (failsAs_readToken _).bind fun promised => ?_
      refine (FailsAs.mapM failsAs_readToken _).bind fun literals => ?_
      dsimp only
      split
      · exact FailsAs.error rfl
      · split
        · exact FailsAs.error rfl
        · exact failsAs_ofClauses _ _

/-! ## Layout -/

/-- Some of these blanks end a line. -/
def HasBreak (gap : List Char) : Prop := ∃ ends ∈ gap, isLineBreak ends = true

/-- One text is another one with a different layout: a blank line or a comment is put in before a line
or at the end, a gap between lines is replaced by another one, or a gap between two words behind the
header is replaced by any other one.  After the gap there is a word that no comment begins with. -/
inductive Relaid : List Char → List Char → Prop
  | addFirst (line : List Char) (ends : Char) (after : List Char) :
      NoBreak line → isContent (strip line) = false → isLineBreak ends = true →
      Relaid after (line ++ ends :: after)
  | addLine (before : List Char) (next : Char) (line : List Char) (ends : Char) (after : List Char) :
      isLineBreak next = true → NoBreak line → isContent (strip line) = false →
      isLineBreak ends = true →
      Relaid (before ++ next :: after) (before ++ next :: (line ++ ends :: after))
  | addLast (before : List Char) (ends : Char) (line : List Char) :
      isLineBreak ends = true → NoBreak line → isContent (strip line) = false →
      Relaid before (before ++ ends :: line)
  | rebreak (before gap other after : List Char) :
      AllBlank gap → HasBreak gap → AllBlank other → HasBreak other →
      Relaid (before ++ gap ++ after) (before ++ other ++ after)
  | respace (before : List Char) (ends : Char) (line gap other : List Char) (next : Char)
      (after : List Char) :
      content before ≠ [] → isLineBreak ends = true → NoBreak line →
      isContent (strip line) = true → IsGap gap → IsGap other →
      isBlank next = false → next ≠ 'c' →
      Relaid (before ++ ends :: (line ++ gap ++ next :: after))
        (before ++ ends :: (line ++ other ++ next :: after))

/-- A comment and a blank line have no content. -/
theorem content_skipped {line : List Char} (whole : NoBreak line)
    (skipped : isContent (strip line) = false) : content line = [] := by
  rw [content_of_noBreak whole, List.filter_cons, skipped]
  rfl

/-- A gap with a line break separates the lines before it from the lines after it. -/
theorem content_append_gap {gap : List Char} (blank : AllBlank gap) (breaks : HasBreak gap)
    (before after : List Char) : content (before ++ gap ++ after) = content before ++ content after := by
  obtain ⟨ends, inGap, isOne⟩ := breaks
  obtain ⟨first, second, rfl⟩ := List.append_of_mem inGap
  obtain ⟨blankFirst, blankSecond⟩ := blank.around
  have regrouped : before ++ (first ++ ends :: second) ++ after =
      (before ++ first) ++ ends :: (second ++ after) := by simp
  rw [regrouped, content_append_break isOne, content_eq, content_eq,
    filledLines_append_allBlank blankFirst, filledLines_blank_append blankSecond, ← content_eq,
    ← content_eq]

/-- The words of a line with content, a gap and more words are these words one after the other, whether
the gap breaks the line or not. -/
theorem words_content_append_gap {line gap : List Char} {next : Char} (whole : NoBreak line)
    (speaks : isContent (strip line) = true) (isGap : IsGap gap) (solid : isBlank next = false)
    (noComment : next ≠ 'c') (after : List Char) :
    (content (line ++ gap ++ next :: after)).flatMap words =
      words line ++ (content (next :: after)).flatMap words := by
  have alone : ∀ {piece : List Char}, NoBreak piece → isContent (strip piece) = true →
      (content piece).flatMap words = words piece := fun {piece} whole speaks => by
    rw [content_of_noBreak whole, List.filter_cons, if_pos speaks]
    simp
  by_cases breaks : HasBreak gap
  · rw [content_append_gap isGap.2 breaks, List.flatMap_append, alone whole speaks]
  · -- The line goes on up to the next break.
    have onLine : NoBreak gap := fun character inside => by
      cases isBreak : isLineBreak character with
      | false => rfl
      | true => exact absurd ⟨character, inside, isBreak⟩ breaks
    have joined : ∀ rest : List Char, NoBreak (next :: rest) →
        (content (line ++ gap ++ next :: rest)).flatMap words =
          words line ++ (content (next :: rest)).flatMap words := fun rest wholeRest => by
      have cut := words_append_gap isGap.2 isGap.1 line (next :: rest)
      have speaksRest : isContent (strip (next :: rest)) = true := by
        obtain ⟨tail, others, isWord⟩ := words_cons solid rest
        exact isContent_strip_iff.2 ⟨next, tail, others, isWord, noComment⟩
      have speaksAll : isContent (strip (line ++ gap ++ next :: rest)) = true := by
        obtain ⟨first, tail, others, isWord, noComment⟩ := isContent_strip_iff.1 speaks
        exact isContent_strip_iff.2
          ⟨first, tail, others ++ words (next :: rest), by rw [cut, isWord]; rfl, noComment⟩
      have wholeAll : NoBreak (line ++ gap ++ next :: rest) :=
        (whole.append onLine).append wholeRest
      rw [alone wholeAll speaksAll, alone wholeRest speaksRest, cut]
    rcases first_line (next :: after) with wholeAfter | ⟨start, ends, later, isAfter, isOne, wholeStart⟩
    · exact joined after wholeAfter
    · cases start with
      | nil =>
          have blank := isBlank_of_isLineBreak isOne
          rw [← (List.cons.inj isAfter).1, solid] at blank
          cases blank
      | cons first rest =>
          rw [List.cons_append] at isAfter
          obtain ⟨rfl, rfl⟩ := List.cons.inj isAfter
          have regrouped : line ++ gap ++ next :: (rest ++ ends :: later) =
              (line ++ gap ++ next :: rest) ++ ends :: later := by simp
          rw [regrouped, content_append_break isOne, List.flatMap_append, joined rest wholeStart,
            ← List.cons_append, content_append_break isOne, List.flatMap_append, List.append_assoc]

/-- A text is read by its first line with content and the words of the others. -/
theorem ofDimacs_congr {text other : String}
    (sameHeader : (content text.toList).head? = (content other.toList).head?)
    (sameWords : (content text.toList).tail.flatMap words =
      (content other.toList).tail.flatMap words) : ofDimacs text = ofDimacs other := by
  unfold ofDimacs
  rw [contentLines_eq, contentLines_eq]
  cases isContent : content text.toList with
  | nil =>
      cases isOther : content other.toList with
      | nil => rfl
      | cons => simp [isContent, isOther] at sameHeader
  | cons header body =>
      cases isOther : content other.toList with
      | nil => simp [isContent, isOther] at sameHeader
      | cons otherHeader otherBody =>
          simp only [isContent, isOther, List.head?_cons, Option.some.injEq, List.tail_cons] at *
          subst sameHeader
          rw [sameWords]

/-- A different layout changes neither the header nor the words behind it. -/
theorem Relaid.same {text other : List Char} (relaid : Relaid text other) :
    (content text).head? = (content other).head? ∧
      (content text).tail.flatMap words = (content other).tail.flatMap words := by
  have of_content : ∀ {text other : List Char}, content text = content other →
      (content text).head? = (content other).head? ∧
        (content text).tail.flatMap words = (content other).tail.flatMap words :=
    fun same => by rw [same]; exact ⟨rfl, rfl⟩
  cases relaid with
  | addFirst line ends after whole skipped isOne =>
      refine of_content ?_
      rw [content_append_break isOne, content_skipped whole skipped, List.nil_append]
  | addLine before next line ends after isNext whole skipped isOne =>
      refine of_content ?_
      rw [content_append_break isNext, content_append_break isNext, content_append_break isOne,
        content_skipped whole skipped, List.nil_append]
  | addLast before ends line isOne whole skipped =>
      refine of_content ?_
      rw [content_append_break isOne, content_skipped whole skipped, List.append_nil]
  | rebreak before gap different after blank breaks otherBlank otherBreaks =>
      refine of_content ?_
      rw [content_append_gap blank breaks, content_append_gap otherBlank otherBreaks]
  | respace before ends line gap different next after hasHeader isOne whole speaks isGap isOther solid
      noComment =>
      rw [content_append_break isOne, content_append_break isOne]
      cases isBefore : content before with
      | nil => exact absurd isBefore hasHeader
      | cons header body =>
          refine ⟨rfl, ?_⟩
          simp only [List.cons_append, List.tail_cons, List.flatMap_append,
            words_content_append_gap whole speaks isGap solid noComment,
            words_content_append_gap whole speaks isOther solid noComment]

/-- However often a text is laid out anew, the first line with content and the words of the others stay. -/
theorem same_of_relaid {text other : List Char} (relaid : Relation.EqvGen Relaid text other) :
    (content text).head? = (content other).head? ∧
      (content text).tail.flatMap words = (content other).tail.flatMap words := by
  induction relaid with
  | rel _ _ step => exact step.same
  | refl => exact ⟨rfl, rfl⟩
  | symm _ _ _ hypothesis => exact ⟨hypothesis.1.symm, hypothesis.2.symm⟩
  | trans _ _ _ _ _ first second => exact ⟨first.1.trans second.1, first.2.trans second.2⟩

/-- A text is read as a formula if and only if it is a text for this formula; any other text is a wrong
value; and however a text is laid out, it is read in the same way. -/
theorem ofDimacs_decided (text : String) :
    (∀ cnf, ofDimacs text = .ok cnf ↔
      ∃ numVars clauses, cnf = ofNumbers numVars clauses ∧ Spells text.toList numVars clauses ∧
        WithinLimit text.toList) ∧
    (∀ fault, ofDimacs text = .error fault → fault.category = .value) ∧
    ∀ other : String, Relation.EqvGen Relaid text.toList other.toList →
      ofDimacs other = ofDimacs text := by
  refine ⟨fun cnf => ofDimacs_eq_ok_iff, failsAs_ofDimacs text, fun other relaid => ?_⟩
  have same := same_of_relaid relaid
  exact (ofDimacs_congr same.1 same.2).symm

/-- A clause that is broken into two lines with a comment between them is the clause on one line. -/
theorem ofDimacs_decided_broken_clause :
    Relation.EqvGen Relaid "p cnf 2 1\n1 -2 0".toList "p cnf 2 1\n1\nc half\n-2 0".toList ∧
      ofDimacs "p cnf 2 1\n1\nc half\n-2 0" = ofDimacs "p cnf 2 1\n1 -2 0" ∧
      ofDimacs "p cnf 2 1\n1 -2 0" = .ok (ofNumbers 2 [[1, -2]]) := by
  have broken : Relaid "p cnf 2 1\n1 -2 0".toList "p cnf 2 1\n1\n-2 0".toList :=
    .respace "p cnf 2 1".toList '\n' ['1'] [' '] ['\n'] '-' "2 0".toList (by decide) (by decide)
      (by decide) (by decide) (by decide) (by decide) (by decide) (by decide)
  have commented : Relaid "p cnf 2 1\n1\n-2 0".toList "p cnf 2 1\n1\nc half\n-2 0".toList :=
    .addLine "p cnf 2 1\n1".toList '\n' "c half".toList '\n' "-2 0".toList (by decide) (by decide)
      (by decide) (by decide)
  have relaid := Relation.EqvGen.trans _ _ _ (.rel _ _ broken) (.rel _ _ commented)
  exact ⟨relaid, (ofDimacs_decided _).2.2 _ relaid, rfl⟩

end Cnf

end TensorLogic
