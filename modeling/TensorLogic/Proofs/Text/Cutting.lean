/-
Module: TensorLogic.Proofs.Text.Cutting
Purpose: The words and the lines of a text, and that blanks between them do not matter.
Main exports: Text.words_eq, Text.words_append_gap, Text.words_strip, Text.words_intercalate,
  Text.filledLines, Text.filledLines_append_break, Text.filledLines_strip, Text.filter_lines
-/
import Mathlib.Data.List.Basic
import Mathlib.Data.List.TakeWhile
import TensorLogic.Text.Blank

namespace TensorLogic.Text

/-- A run of characters between which a text may be cut. -/
def AllBlank (gap : List Char) : Prop := ∀ character ∈ gap, isBlank character = true

/-- A text that is not cut into words. -/
def NoBlank (text : List Char) : Prop := ∀ character ∈ text, isBlank character = false

/-- A text that is not cut into lines. -/
def NoBreak (text : List Char) : Prop := ∀ character ∈ text, isLineBreak character = false

-- Going through the text, not through all characters that there are.
instance (gap : List Char) : Decidable (AllBlank gap) :=
  List.decidableBAll (isBlank · = true) gap

instance (text : List Char) : Decidable (NoBlank text) :=
  List.decidableBAll (isBlank · = false) text

instance (text : List Char) : Decidable (NoBreak text) :=
  List.decidableBAll (isLineBreak · = false) text

theorem NoBreak.append {first second : List Char} (whole : NoBreak first) (also : NoBreak second) :
    NoBreak (first ++ second) := by
  intro character member
  rcases List.mem_append.1 member with inFirst | inSecond
  · exact whole character inFirst
  · exact also character inSecond

/-- What stands before and after a character of a gap is blank as well. -/
theorem AllBlank.around {before after : List Char} {character : Char}
    (blank : AllBlank (before ++ character :: after)) : AllBlank before ∧ AllBlank after := by
  obtain ⟨blankBefore, rest⟩ := List.forall_mem_append.1 blank
  exact ⟨blankBefore, (List.forall_mem_cons.1 rest).2⟩

/-- A line break is a blank, so that text without blanks has no breaks. -/
theorem NoBlank.noBreak {text : List Char} (solid : NoBlank text) : NoBreak text := by
  intro character member
  cases ends : isLineBreak character with
  | false => rfl
  | true => exact absurd (isBlank_of_isLineBreak ends) (by rw [solid character member]; decide)

/-- Joining lines by a blank gives a line. -/
theorem noBreak_intercalate {pieces : List (List Char)} (whole : ∀ piece ∈ pieces, NoBreak piece) :
    NoBreak ([' '].intercalate pieces) := by
  induction pieces with
  | nil => exact fun character inside => by cases inside
  | cons piece pieces hypothesis =>
      have one := whole piece List.mem_cons_self
      have rest := hypothesis fun other member => whole other (List.mem_cons_of_mem _ member)
      cases pieces with
      | nil => rwa [List.intercalate_singleton]
      | cons next pieces =>
          rw [List.intercalate_cons_cons]
          have blank : NoBreak [' '] := by decide
          exact (one.append blank).append rest

/-! ## Blanks at the ends -/

/-- A text is what remains of it without the blanks at its ends, between these blanks. -/
theorem exists_strip (text : List Char) :
    ∃ lead trail, text = lead ++ strip text ++ trail ∧ AllBlank lead ∧ AllBlank trail := by
  refine ⟨text.takeWhile isBlank, ((text.dropWhile isBlank).reverse.takeWhile isBlank).reverse,
    ?_, fun character member => List.mem_takeWhile_imp member,
    fun character member => List.mem_takeWhile_imp (List.mem_reverse.1 member)⟩
  rw [strip, List.append_assoc, ← List.reverse_append, List.takeWhile_append_dropWhile,
    List.reverse_reverse, List.takeWhile_append_dropWhile]

theorem dropWhile_blank_append {lead : List Char} (blank : AllBlank lead) (text : List Char) :
    (lead ++ text).dropWhile isBlank = text.dropWhile isBlank := by
  rw [List.dropWhile_append, List.dropWhile_eq_nil_iff.2 blank]
  rfl

theorem strip_blank_append {lead : List Char} (blank : AllBlank lead) (text : List Char) :
    strip (lead ++ text) = strip text := by
  rw [strip, dropWhile_blank_append blank, strip]

theorem strip_append_blank {trail : List Char} (blank : AllBlank trail) (text : List Char) :
    strip (text ++ trail) = strip text := by
  have reversed : AllBlank trail.reverse := fun character member =>
    blank character (List.mem_reverse.1 member)
  rw [strip, strip, List.dropWhile_append]
  split
  case isTrue nothing =>
    rw [List.isEmpty_iff.1 nothing, List.dropWhile_eq_nil_iff.2 blank]
  case isFalse =>
    rw [List.reverse_append, dropWhile_blank_append reversed]

/-- A word has no blanks at its ends. -/
theorem strip_eq_self {word : List Char} (solid : NoBlank word) : strip word = word := by
  have unchanged : ∀ {text : List Char}, NoBlank text → text.dropWhile isBlank = text :=
    fun {text} solid => by
      cases text with
      | nil => rfl
      | cons first rest =>
          rw [List.dropWhile_cons, solid first List.mem_cons_self]
          rfl
  rw [strip, unchanged solid, unchanged, List.reverse_reverse]
  exact fun character member => solid character (List.mem_reverse.1 member)

/-! ## Words -/

/-- Characters that are not blank. -/
def isFilled (piece : List Char) : Bool := !piece.isEmpty

/-- What is filled is not empty. -/
@[simp]
theorem isFilled_iff {piece : List Char} : isFilled piece = true ↔ piece ≠ [] := by
  cases piece <;> simp [isFilled]

/-- The words of a text are the pieces between its blanks that are not empty; the characters that are
pending belong to the first one. -/
theorem wordsFrom_eq (pending text : List Char) :
    wordsFrom pending text =
      ((text.splitOnP isBlank).modifyHead (pending.reverse ++ ·)).filter isFilled := by
  induction text generalizing pending with
  | nil => cases pending <;> simp [wordsFrom]
  | cons character text hypothesis =>
      rw [wordsFrom, List.splitOnP_cons_eq_if_modifyHead, hypothesis, hypothesis]
      cases cut : text.splitOnP isBlank with
      | nil => exact absurd cut (List.splitOnP_ne_nil _ _)
      | cons piece pieces => cases isBlank character <;> cases pending <;> simp

/-- The words are what remains when a text is cut at every blank and empty pieces are left out. -/
theorem words_eq (text : List Char) : words text = (text.splitOnP isBlank).filter isFilled := by
  rw [words, wordsFrom_eq]
  cases text.splitOnP isBlank <;> rfl

/-- Words are cut at a blank, so that the words on both sides of it are listed in turn. -/
theorem words_append_blank {blank : Char} (isOne : isBlank blank = true) (text rest : List Char) :
    words (text ++ blank :: rest) = words text ++ words rest := by
  rw [words_eq, words_eq, words_eq, List.splitOnP_append_cons _ _ isOne, List.filter_append]

/-- Blanks in front are not part of any word. -/
theorem words_blank_append {lead : List Char} (blank : AllBlank lead) (text : List Char) :
    words (lead ++ text) = words text := by
  induction lead with
  | nil => rfl
  | cons first lead hypothesis =>
      rw [List.cons_append]
      refine (words_append_blank (blank first List.mem_cons_self) [] (lead ++ text)).trans ?_
      exact hypothesis fun character member => blank character (List.mem_cons_of_mem _ member)

/-- Between two words it does not matter which blanks stand, or how many. -/
theorem words_append_gap {gap : List Char} (blank : AllBlank gap) (nonempty : gap ≠ [])
    (text rest : List Char) : words (text ++ gap ++ rest) = words text ++ words rest := by
  cases gap with
  | nil => exact absurd rfl nonempty
  | cons first gap =>
      rw [List.append_assoc, List.cons_append, words_append_blank (blank first List.mem_cons_self),
        words_blank_append fun character member => blank character (List.mem_cons_of_mem _ member)]

theorem words_append_allBlank {trail : List Char} (blank : AllBlank trail) (text : List Char) :
    words (text ++ trail) = words text := by
  by_cases empty : trail = []
  · rw [empty, List.append_nil]
  · have cut := words_append_gap blank empty text []
    rwa [List.append_nil, show words [] = [] from rfl, List.append_nil] at cut

/-- Stripping a text leaves its words. -/
@[simp]
theorem words_strip (text : List Char) : words (strip text) = words text := by
  obtain ⟨lead, trail, isText, blankLead, blankTrail⟩ := exists_strip text
  conv => rhs; rw [isText, words_append_allBlank blankTrail, words_blank_append blankLead]

/-- A word is its only word. -/
theorem words_eq_singleton {word : List Char} (solid : NoBlank word) (nonempty : word ≠ []) :
    words word = [word] := by
  rw [words_eq, List.splitOnP_eq_singleton solid]
  cases word with
  | nil => exact absurd rfl nonempty
  | cons => rfl

/-- Words are not empty, and have no blanks in them. -/
theorem solid_of_mem_wordsFrom {pending text : List Char} (solid : NoBlank pending) :
    ∀ word ∈ wordsFrom pending text, NoBlank word ∧ word ≠ [] := by
  have finished : ∀ {pending : List Char}, NoBlank pending → pending ≠ [] →
      NoBlank pending.reverse ∧ pending.reverse ≠ [] := fun solid nonempty =>
    ⟨fun character member => solid character (List.mem_reverse.1 member), by simpa using nonempty⟩
  induction text generalizing pending with
  | nil =>
      intro word member
      cases pending with
      | nil => cases member
      | cons last pending =>
          rw [List.mem_singleton.1 member]
          exact finished solid (List.cons_ne_nil _ _)
  | cons character text hypothesis =>
      intro word member
      rw [wordsFrom] at member
      cases blank : isBlank character with
      | false =>
          rw [blank, if_neg Bool.false_ne_true] at member
          refine hypothesis (fun other inside => ?_) word member
          rcases List.mem_cons.1 inside with rfl | inside
          · exact blank
          · exact solid other inside
      | true =>
          rw [if_pos blank] at member
          have nothing : NoBlank [] := fun other inside => nomatch inside
          cases pending with
          | nil => exact hypothesis nothing word member
          | cons last pending =>
              rcases List.mem_cons.1 member with rfl | member
              · exact finished solid (List.cons_ne_nil _ _)
              · exact hypothesis nothing word member

/-- Words contain no blanks and are not empty. -/
theorem solid_of_mem_words {text word : List Char} (member : word ∈ words text) :
    NoBlank word ∧ word ≠ [] :=
  solid_of_mem_wordsFrom (fun _ inside => by cases inside) word member

theorem wordsFrom_cons (last : Char) (pending text : List Char) :
    ∃ tail others, wordsFrom (last :: pending) text = ((last :: pending).reverse ++ tail) :: others := by
  induction text generalizing last pending with
  | nil => exact ⟨[], [], by simp [wordsFrom]⟩
  | cons character text hypothesis =>
      rw [wordsFrom]
      cases isBlank character with
      | true => exact ⟨[], wordsFrom [] text, by simp⟩
      | false =>
          obtain ⟨tail, others, isWord⟩ := hypothesis character (last :: pending)
          exact ⟨character :: tail, others, by simpa using isWord⟩

/-- A text that does not begin with a blank begins with its first word. -/
theorem words_cons {first : Char} (solid : isBlank first = false) (text : List Char) :
    ∃ tail others, words (first :: text) = (first :: tail) :: others := by
  obtain ⟨tail, others, isWord⟩ := wordsFrom_cons first [] text
  exact ⟨tail, others, by rw [words, wordsFrom, solid, if_neg Bool.false_ne_true, isWord]; rfl⟩

/-- What remains without the blanks at the ends does not begin with a blank. -/
theorem solid_head_strip {text rest : List Char} {first : Char} (isStrip : strip text = first :: rest) :
    isBlank first = false := by
  have isPrefix : first :: rest <+: text.dropWhile isBlank := by
    rw [← isStrip, strip, ← List.reverse_suffix, List.reverse_reverse]
    exact List.dropWhile_suffix _
  obtain ⟨others, isDropped⟩ := isPrefix
  have nonempty : text.dropWhile isBlank ≠ [] := by
    rw [← isDropped]
    exact List.cons_ne_nil _ _
  have unblank := List.head_dropWhile_not isBlank nonempty
  simpa only [← isDropped, List.cons_append, List.head_cons] using unblank

/-- Nor does it end with one. -/
theorem solid_last_strip {text rest : List Char} {last : Char}
    (isStrip : strip text = rest ++ [last]) : isBlank last = false := by
  have reversed : (text.dropWhile isBlank).reverse.dropWhile isBlank = last :: rest.reverse := by
    rw [← List.reverse_inj, ← strip, isStrip, List.reverse_cons, List.reverse_reverse]
  have nonempty : (text.dropWhile isBlank).reverse.dropWhile isBlank ≠ [] := by
    rw [reversed]
    exact List.cons_ne_nil _ _
  have unblank := List.head_dropWhile_not isBlank nonempty
  simpa only [reversed, List.head_cons] using unblank

/-- A text that is stripped need not be stripped again. -/
@[simp]
theorem strip_strip (text : List Char) : strip (strip text) = strip text := by
  have headKept : (strip text).dropWhile isBlank = strip text := by
    cases isStrip : strip text with
    | nil => rfl
    | cons first rest => rw [List.dropWhile_cons_of_neg (by simp [solid_head_strip isStrip])]
  have lastKept : (strip text).reverse.dropWhile isBlank = (strip text).reverse := by
    cases isStrip : (strip text).reverse with
    | nil => rfl
    | cons last rest =>
        have ends := List.reverse_eq_cons_iff.1 isStrip
        rw [List.dropWhile_cons_of_neg (by simp [solid_last_strip ends])]
  rw [strip, headKept, lastKept, List.reverse_reverse]

/-- A text goes on after a word: not at all, or with a blank. -/
def StartsBlank (text : List Char) : Prop := ∀ character rest, text = character :: rest →
  isBlank character = true

/-- A word ends where a blank starts, or the text ends. -/
theorem words_of_startsBlank {word rest : List Char} (solid : NoBlank word) (nonempty : word ≠ [])
    (starts : StartsBlank rest) : words (word ++ rest) = word :: words rest := by
  cases rest with
  | nil =>
      rw [List.append_nil, words_eq_singleton solid nonempty]
      rfl
  | cons blank rest =>
      have isOne := starts blank rest rfl
      have after : words (blank :: rest) = words rest := words_append_blank isOne [] rest
      rw [words_append_blank isOne, words_eq_singleton solid nonempty, after]
      rfl

/-- Apart from blanks, a text begins with its first word. -/
theorem exists_first_word (text : List Char) :
    (AllBlank text ∧ words text = []) ∨
      ∃ lead word rest, text = lead ++ word ++ rest ∧ AllBlank lead ∧ NoBlank word ∧ word ≠ [] ∧
        StartsBlank rest ∧ words text = word :: words rest := by
  have blank : AllBlank (text.takeWhile isBlank) := fun _ inside => List.mem_takeWhile_imp inside
  have isText := List.takeWhile_append_dropWhile (p := isBlank) (l := text)
  generalize text.takeWhile isBlank = lead at blank isText
  cases isCore : text.dropWhile isBlank with
  | nil =>
      rw [isCore, List.append_nil] at isText
      subst isText
      refine Or.inl ⟨blank, ?_⟩
      have none := words_blank_append blank []
      rwa [List.append_nil] at none
  | cons first others =>
      have solidFirst := List.head_dropWhile_not isBlank (l := text) (by rw [isCore]; simp)
      simp only [isCore, List.head_cons] at solidFirst
      have isWhole : first :: others =
          (first :: others.takeWhile (!isBlank ·)) ++ others.dropWhile (!isBlank ·) := by
        rw [List.cons_append, List.takeWhile_append_dropWhile]
      have solid : NoBlank (first :: others.takeWhile (!isBlank ·)) := by
        intro character inside
        rcases List.mem_cons.1 inside with rfl | inside
        · exact solidFirst
        · simpa using List.mem_takeWhile_imp inside
      have starts : StartsBlank (others.dropWhile (!isBlank ·)) := by
        intro character rest isRest
        have stopped := List.head_dropWhile_not (!isBlank ·) (l := others) (by rw [isRest]; simp)
        simpa [isRest] using stopped
      refine Or.inr ⟨lead, _, _, ?_, blank, solid, List.cons_ne_nil _ _, starts, ?_⟩
      · rw [List.append_assoc, ← isWhole, ← isCore, isText]
      · rw [← isText, isCore, words_blank_append blank]
        conv => lhs; rw [isWhole]
        exact words_of_startsBlank solid (List.cons_ne_nil _ _) starts

/-- A text without words is blank. -/
theorem allBlank_of_words {text : List Char} (none : words text = []) : AllBlank text := by
  rcases exists_first_word text with ⟨blank, _⟩ | ⟨_, _, _, _, _, _, _, _, isCut⟩
  · exact blank
  · rw [none] at isCut
    cases isCut

/-- A text with a word begins, after blanks, with the first one, and the other words follow it. -/
theorem words_eq_cons {text word : List Char} {others : List (List Char)}
    (isCut : words text = word :: others) :
    ∃ lead rest, text = lead ++ word ++ rest ∧ AllBlank lead ∧ StartsBlank rest ∧
      words rest = others := by
  rcases exists_first_word text with ⟨_, none⟩ | ⟨lead, _, rest, isText, blank, _, _, starts, found⟩
  · rw [none] at isCut
    cases isCut
  · rw [isCut] at found
    cases found
    exact ⟨lead, rest, isText, blank, starts, rfl⟩

/-- After a word, there are blanks before the next one. -/
theorem words_eq_cons_of_startsBlank {text word : List Char} {others : List (List Char)}
    (begins : StartsBlank text) (isCut : words text = word :: others) :
    ∃ gap rest, text = gap ++ word ++ rest ∧ gap ≠ [] ∧ AllBlank gap ∧ StartsBlank rest ∧
      words rest = others := by
  obtain ⟨gap, rest, isText, blank, starts, isRest⟩ := words_eq_cons isCut
  refine ⟨gap, rest, isText, ?_, blank, starts, isRest⟩
  rintro rfl
  have isWord : word ∈ words text := by
    rw [isCut]
    exact List.mem_cons_self
  obtain ⟨solid, nonempty⟩ := solid_of_mem_words isWord
  cases word with
  | nil => exact nonempty rfl
  | cons first tail =>
      have blank := begins first (tail ++ rest) isText
      rw [solid first List.mem_cons_self] at blank
      cases blank

/-- Where a separator cuts a text, pieces that it joins are cut apart again. -/
theorem cut_intercalate {α : Type} {cut : List Char → List α} {separator : List Char}
    (nothing : cut [] = [])
    (separates : ∀ before after, cut (before ++ separator ++ after) = cut before ++ cut after)
    (pieces : List (List Char)) : cut (separator.intercalate pieces) = pieces.flatMap cut := by
  induction pieces with
  | nil => exact nothing
  | cons piece pieces hypothesis =>
      cases pieces with
      | nil => rw [List.intercalate_singleton, List.flatMap_singleton]
      | cons next pieces =>
          rw [List.intercalate_cons_cons, separates, hypothesis]
          rfl

/-- Words that are joined by a blank are cut apart again. -/
theorem words_intercalate {pieces : List (List Char)}
    (solid : ∀ piece ∈ pieces, NoBlank piece ∧ piece ≠ []) :
    words ([' '].intercalate pieces) = pieces := by
  have blank : AllBlank [' '] := by decide
  have separates := words_append_gap blank (List.cons_ne_nil _ _)
  calc words ([' '].intercalate pieces)
      = pieces.flatMap words := cut_intercalate rfl separates pieces
    _ = pieces.flatMap fun piece => [piece] := List.flatMap_congr fun piece member =>
        words_eq_singleton (solid piece member).1 (solid piece member).2
    _ = pieces := List.flatMap_singleton' pieces

/-! ## Lines -/

/-- The lines of a text that are not blank, without the blanks at their ends. -/
def filledLines (text : List Char) : List (List Char) :=
  ((text.splitOnP isLineBreak).map strip).filter isFilled

/-- Lines are cut at a break, so that the filled lines on both sides of it are listed in turn. -/
theorem filledLines_append_break {ends : Char} (isOne : isLineBreak ends = true)
    (text rest : List Char) : filledLines (text ++ ends :: rest) = filledLines text ++ filledLines rest := by
  rw [filledLines, List.splitOnP_append_cons _ _ isOne, List.map_append, List.filter_append]
  rfl

theorem filledLines_of_noBreak {line : List Char} (whole : NoBreak line) :
    filledLines line = [strip line].filter isFilled := by
  rw [filledLines, List.splitOnP_eq_singleton whole]
  rfl

/-- A text has only one line, or it ends with a line after a break. -/
theorem last_line (text : List Char) :
    NoBreak text ∨ ∃ earlier ends line, text = earlier ++ ends :: line ∧
      isLineBreak ends = true ∧ NoBreak line := by
  induction text with
  | nil => exact Or.inl fun _ inside => nomatch inside
  | cons character text hypothesis =>
      rcases hypothesis with whole | ⟨earlier, ends, line, isText, isOne, whole⟩
      · cases isBreak : isLineBreak character with
        | true => exact Or.inr ⟨[], character, text, rfl, isBreak, whole⟩
        | false =>
            refine Or.inl fun other inside => ?_
            rcases List.mem_cons.1 inside with rfl | inside
            · exact isBreak
            · exact whole other inside
      · exact Or.inr ⟨character :: earlier, ends, line, by rw [isText]; rfl, isOne, whole⟩

/-- A text has only one line, or it begins with a line before a break. -/
theorem first_line (text : List Char) :
    NoBreak text ∨ ∃ line ends later, text = line ++ ends :: later ∧
      isLineBreak ends = true ∧ NoBreak line := by
  induction text with
  | nil => exact Or.inl fun _ inside => nomatch inside
  | cons character text hypothesis =>
      have extended : ∀ {line : List Char}, isLineBreak character = false → NoBreak line →
          NoBreak (character :: line) := fun isNone whole other inside => by
        rcases List.mem_cons.1 inside with rfl | inside
        · exact isNone
        · exact whole other inside
      cases isBreak : isLineBreak character with
      | true => exact Or.inr ⟨[], character, text, rfl, isBreak, fun _ inside => nomatch inside⟩
      | false =>
          rcases hypothesis with whole | ⟨line, ends, later, isText, isOne, whole⟩
          · exact Or.inl (extended isBreak whole)
          · exact Or.inr ⟨character :: line, ends, later, by rw [isText]; rfl, isOne,
              extended isBreak whole⟩

theorem filledLines_blank_append {lead : List Char} (blank : AllBlank lead) (text : List Char) :
    filledLines (lead ++ text) = filledLines text := by
  induction lead with
  | nil => rfl
  | cons character lead hypothesis =>
      have rest := hypothesis fun other inside => blank other (List.mem_cons_of_mem _ inside)
      cases isBreak : isLineBreak character with
      | true =>
          rw [← rest]
          exact filledLines_append_break isBreak [] (lead ++ text)
      | false =>
          rw [← rest, filledLines, filledLines, List.cons_append,
            List.splitOnP_cons_eq_if_modifyHead, isBreak, if_neg Bool.false_ne_true]
          cases cut : (lead ++ text).splitOnP isLineBreak with
          | nil => rfl
          | cons line lines =>
              have single : AllBlank [character] := fun other inside => by
                rw [List.mem_singleton.1 inside]
                exact blank character List.mem_cons_self
              have unchanged : strip (character :: line) = strip line := strip_blank_append single line
              rw [List.modifyHead_cons, List.map_cons, List.map_cons, unchanged]

theorem filledLines_append_allBlank {trail : List Char} (blank : AllBlank trail) (text : List Char) :
    filledLines (text ++ trail) = filledLines text := by
  -- The trail goes on the last line, up to its own first break.
  have onLine : ∀ {line before : List Char}, NoBreak line → NoBreak before → AllBlank before →
      filledLines (line ++ before) = filledLines line := fun {line before} whole also blank => by
    rw [filledLines_of_noBreak (whole.append also), filledLines_of_noBreak whole, strip_append_blank blank]
  have onText : ∀ {before : List Char}, NoBreak before → AllBlank before →
      filledLines (text ++ before) = filledLines text := fun {before} also blank => by
    rcases last_line text with whole | ⟨earlier, ends, line, rfl, isOne, whole⟩
    · exact onLine whole also blank
    · rw [List.append_assoc, List.cons_append, filledLines_append_break isOne,
        filledLines_append_break isOne, onLine whole also blank]
  rcases first_line trail with also | ⟨before, ends, later, rfl, isOne, also⟩
  · exact onText also blank
  · obtain ⟨blankBefore, blankLater⟩ := blank.around
    have nothing : filledLines later = [] := by
      have none := filledLines_blank_append blankLater []
      rwa [List.append_nil] at none
    rw [← List.append_assoc, filledLines_append_break isOne, nothing, List.append_nil,
      onText also blankBefore]

/-- Blanks at the ends of a text, line breaks among them, add no line that is not blank. -/
@[simp]
theorem filledLines_strip (text : List Char) : filledLines (strip text) = filledLines text := by
  obtain ⟨lead, trail, isText, blankLead, blankTrail⟩ := exists_strip text
  conv => rhs; rw [isText, filledLines_append_allBlank blankTrail, filledLines_blank_append blankLead]

/-- The filled lines of a text are the pieces between its breaks that are not empty; the characters that are
pending belong to the first one. -/
theorem filter_linesFrom (pending text : List Char) :
    (linesFrom pending text).filter isFilled =
      ((text.splitOnP isLineBreak).modifyHead (pending.reverse ++ ·)).filter isFilled := by
  have noLine : ∀ rest : List Char,
      (rest.splitOnP isLineBreak).modifyHead (([] : List Char).reverse ++ ·) =
        rest.splitOnP isLineBreak := fun rest => by
    cases rest.splitOnP isLineBreak <;> rfl
  fun_induction linesFrom pending text with
  | case1 pending empty => simp [List.isEmpty_iff.1 empty]
  | case2 pending some => simp
  | case3 pending rest hypothesis =>
      rw [noLine] at hypothesis
      rw [List.splitOnP_cons_eq_if_modifyHead, if_pos (by decide),
        List.splitOnP_cons_eq_if_modifyHead, if_pos (by decide), List.modifyHead_cons,
        List.filter_cons, hypothesis, List.filter_cons, List.append_nil]
      rfl
  | case4 pending character rest _ isBreak hypothesis =>
      rw [noLine] at hypothesis
      rw [List.splitOnP_cons_eq_if_modifyHead, if_pos isBreak, List.modifyHead_cons,
        List.filter_cons, hypothesis, List.filter_cons, List.append_nil]
  | case5 pending character rest _ noBreak hypothesis =>
      rw [hypothesis, List.splitOnP_cons_eq_if_modifyHead, if_neg noBreak]
      cases rest.splitOnP isLineBreak <;> simp

/-- A carriage return and a line feed that end one line together leave out an empty line only. -/
theorem filter_lines (text : List Char) :
    ((lines text).map strip).filter isFilled = filledLines text := by
  have unfilled : ∀ pieces : List (List Char),
      (pieces.map strip).filter isFilled = ((pieces.filter isFilled).map strip).filter isFilled :=
    fun pieces => by
      induction pieces with
      | nil => rfl
      | cons piece pieces hypothesis =>
          cases piece with
          | nil => exact hypothesis
          | cons => simp [List.filter_cons, hypothesis]
  have cut := filter_linesFrom [] text
  rw [filledLines, unfilled, unfilled (text.splitOnP isLineBreak), lines, cut]
  cases text.splitOnP isLineBreak <;> rfl

end TensorLogic.Text
