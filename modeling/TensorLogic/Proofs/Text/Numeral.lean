/-
Module: TensorLogic.Proofs.Text.Numeral
Purpose: What a numeral stands for, apart from the limit on its digits, and that numbers are read as they
  were written.
Main exports: Text.integer?, Text.digitCount, Text.readNumeral_eq_ok_iff, Text.integer?_writeNumeral,
  Text.digitCount_writeNumeral, Text.integer?_of_isDigit, readToken_eq_ok_iff,
  failsAs_readToken
-/
import Mathlib.Algebra.Group.Nat.Defs
import TensorLogic.Argument
import TensorLogic.Proofs.Effect.Outcome
import TensorLogic.Proofs.Text.Cutting

namespace TensorLogic

namespace Text

/-- The whole number that a numeral of any length stands for: an optional sign and decimal digits. -/
def integer? : List Char → Option Int
  | '-' :: digits => (natOfDigits? digits).map fun value : Nat => -(value : Int)
  | '+' :: digits => (natOfDigits? digits).map Int.ofNat
  | digits => (natOfDigits? digits).map Int.ofNat

/-- The number of digits in a word. -/
def digitCount (word : List Char) : Nat :=
  word.countP fun character => (digitValue? character).isSome

/-! ## The digits of a numeral -/

theorem isNumeralPart_of_digit {character : Char} {digit : Nat}
    (found : digitValue? character = some digit) : isNumeralPart character = true := by
  rw [isNumeralPart, found]
  simp

/-- What is read as digits consists of digits and underscores. -/
theorem continueDigits_parts {value number : Nat} {text : List Char}
    (read : continueDigits value text = some number) :
    ∀ character ∈ text, isNumeralPart character = true := by
  fun_induction continueDigits value text with
  | case1 => exact fun character inside => by cases inside
  | case2 value character rest hypothesis =>
      obtain ⟨digit, found, readRest⟩ := Option.bind_eq_some_iff.1 read
      intro other inside
      rcases List.mem_cons.1 inside with rfl | inside
      · decide
      · rcases List.mem_cons.1 inside with rfl | inside
        · exact isNumeralPart_of_digit found
        · exact hypothesis digit readRest other inside
  | case3 value character rest _ hypothesis =>
      obtain ⟨digit, found, readRest⟩ := Option.bind_eq_some_iff.1 read
      intro other inside
      rcases List.mem_cons.1 inside with rfl | inside
      · exact isNumeralPart_of_digit found
      · exact hypothesis digit readRest other inside

/-- A text that stands for a number consists of digits and underscores. -/
theorem natOfDigits?_parts {number : Nat} {text : List Char} (read : natOfDigits? text = some number) :
    ∀ character ∈ text, isNumeralPart character = true := by
  cases text with
  | nil => exact fun character inside => by cases inside
  | cons first rest =>
      obtain ⟨digit, found, readRest⟩ := Option.bind_eq_some_iff.1 read
      intro other inside
      rcases List.mem_cons.1 inside with rfl | inside
      · exact isNumeralPart_of_digit found
      · exact continueDigits_parts readRest other inside

theorem takeWhile_parts {text : List Char}
    (parts : ∀ character ∈ text, isNumeralPart character = true) :
    text.takeWhile isNumeralPart = text := by
  induction text with
  | nil => rfl
  | cons first rest hypothesis =>
      rw [List.takeWhile_cons, if_pos (parts first List.mem_cons_self),
        hypothesis fun other inside => parts other (List.mem_cons_of_mem _ inside)]

/-- Among digits and underscores, the digits are all that is no underscore. -/
theorem countP_digits {text : List Char}
    (parts : ∀ character ∈ text, isNumeralPart character = true) :
    text.countP (· != '_') = digitCount text := by
  refine List.countP_congr fun character inside => ?_
  have part := parts character inside
  rw [isNumeralPart] at part
  by_cases underscore : character = '_'
  · rw [underscore]
    decide
  · simpa [underscore] using part

/-- Digits are read exactly when they are well-formed, and not too many. -/
theorem readDigits_eq_ok_iff {text : List Char} {number : Nat} :
    readDigits text = .ok number ↔
      natOfDigits? text = some number ∧ digitCount text ≤ digitLimit := by
  constructor
  · intro read
    unfold readDigits at read
    simp only at read
    split at read
    · cases read
    · rename_i withinLimit
      split at read
      · cases read
      · rename_i value readDigits
        split at read
        · rename_i whole
          have all : text.takeWhile isNumeralPart = text :=
            (List.takeWhile_prefix isNumeralPart).eq_of_length whole
          rw [all] at withinLimit readDigits
          cases read
          rw [countP_digits (natOfDigits?_parts readDigits)] at withinLimit
          exact ⟨readDigits, Nat.not_lt.1 withinLimit⟩
        · cases read
  · rintro ⟨read, withinLimit⟩
    have parts := natOfDigits?_parts read
    unfold readDigits
    simp only [takeWhile_parts parts, countP_digits parts, read]
    rw [if_neg (Nat.not_lt.2 withinLimit), if_pos trivial]

/-- A sign is no digit. -/
theorem digitCount_cons_of_none {sign : Char} (noDigit : digitValue? sign = none)
    (word : List Char) : digitCount (sign :: word) = digitCount word := by
  rw [digitCount, List.countP_cons, noDigit]
  rfl

/-- A numeral is read as what it stands for, if it does not have too many digits. -/
theorem readNumeral_eq_ok_iff {word : List Char} {number : Int} :
    readNumeral word = .ok number ↔
      integer? word = some number ∧ digitCount word ≤ digitLimit := by
  have signed : ∀ (function : Nat → Int) (digits : List Char),
      (readDigits digits).map function = .ok number ↔
        (natOfDigits? digits).map function = some number ∧ digitCount digits ≤ digitLimit :=
    fun function digits => by
      rw [Outcome.map_eq_ok_iff, Option.map_eq_some_iff]
      simp only [readDigits_eq_ok_iff, and_right_comm, exists_and_right]
  fun_cases integer? word with
  | case1 digits =>
      have negated : readNumeral ('-' :: digits) =
          (readDigits digits).map fun value : Nat => -(value : Int) := by
        rw [readNumeral]
        cases readDigits digits <;> rfl
      rw [negated, digitCount_cons_of_none (by decide), signed]
  | case2 digits =>
      rw [readNumeral, digitCount_cons_of_none (by decide), signed]
  | case3 _ noMinus noPlus =>
      rw [readNumeral.eq_3 _ noMinus noPlus, signed]

/-! ## Words of ASCII digits -/

theorem toNat_bounds {character : Char} (isDigit : character.isDigit = true) :
    0x30 ≤ character.toNat ∧ character.toNat < 0x3a := by
  simp only [Char.isDigit, Bool.and_eq_true, decide_eq_true_eq, ge_iff_le, UInt32.le_iff_toNat_le] at isDigit
  exact ⟨isDigit.1, Nat.lt_succ_of_le isDigit.2⟩

/-- The digits of the ASCII range have their usual values. -/
theorem digitValue?_of_isDigit {character : Char} (isDigit : character.isDigit = true) :
    digitValue? character = some (character.toNat - 0x30) := by
  have bounds := toNat_bounds isDigit
  rw [digitValue?, zeroDigits, List.find?_cons_of_pos]
  · rfl
  · simp [bounds.1, bounds.2]

/-- Decimal digits are read as the number that they write. -/
theorem continueDigits_of_isDigit {word : List Char}
    (digits : ∀ character ∈ word, character.isDigit = true) (value : Nat) :
    continueDigits value word = some (Nat.ofDigitChars 10 word value) := by
  induction word generalizing value with
  | nil => rfl
  | cons first rest hypothesis =>
      have isDigit := digits first List.mem_cons_self
      have noUnderscore : first ≠ '_' := by
        rintro rfl
        exact absurd isDigit (by decide)
      rw [continueDigits.eq_3 _ _ _ (fun _ _ same => absurd same noUnderscore),
        digitValue?_of_isDigit isDigit, Nat.ofDigitChars_cons]
      exact hypothesis (fun other inside => digits other (List.mem_cons_of_mem _ inside)) _

/-- A word of ASCII digits stands for the number that they write in base ten. -/
theorem natOfDigits?_of_isDigit {word : List Char} (nonempty : word ≠ [])
    (digits : ∀ character ∈ word, character.isDigit = true) :
    natOfDigits? word = some (Nat.ofDigitChars 10 word 0) := by
  cases word with
  | nil => exact absurd rfl nonempty
  | cons first rest =>
      rw [natOfDigits?, digitValue?_of_isDigit (digits first List.mem_cons_self),
        Nat.ofDigitChars_cons, Nat.mul_zero, Nat.zero_add]
      exact continueDigits_of_isDigit (fun other inside =>
        digits other (List.mem_cons_of_mem _ inside)) _

/-- A word of decimal digits is a whole number. -/
theorem integer?_of_isDigit {word : List Char} (nonempty : word ≠ [])
    (digits : ∀ character ∈ word, character.isDigit = true) :
    integer? word = some ((Nat.ofDigitChars 10 word 0 : Nat) : Int) := by
  have unsigned : ∀ {sign : Char}, sign.isDigit = false → ∀ rest, word ≠ sign :: rest :=
    fun {sign} noDigit rest isWord => by
      have isDigit := digits sign (by rw [isWord]; exact List.mem_cons_self)
      rw [noDigit] at isDigit
      cases isDigit
  rw [integer?.eq_3 word (unsigned (by decide)) (unsigned (by decide)),
    natOfDigits?_of_isDigit nonempty digits]
  rfl

theorem digitCount_of_isDigit {word : List Char}
    (digits : ∀ character ∈ word, character.isDigit = true) : digitCount word = word.length := by
  rw [digitCount, List.countP_eq_length]
  intro character inside
  rw [digitValue?_of_isDigit (digits character inside)]
  rfl

/-! ## Numbers as they are written -/

/-- Numbers are written in decimal digits. -/
theorem isDigit_of_mem_decimal {number : Nat} :
    ∀ character ∈ Nat.toDigits 10 number, character.isDigit = true := fun _ inside =>
  Nat.isDigit_of_mem_toDigits (by decide) (by decide) inside

/-- A number that is written is read as itself. -/
theorem integer?_writeNumeral (number : Int) :
    integer? (writeNumeral number).toList = some number := by
  cases number with
  | ofNat value =>
      rw [writeNumeral, String.toList_ofList,
        integer?_of_isDigit Nat.toDigits_ne_nil isDigit_of_mem_decimal,
        Nat.ofDigitChars_toDigits (by decide) (by decide)]
      rfl
  | negSucc value =>
      rw [writeNumeral, String.toList_ofList, integer?,
        natOfDigits?_of_isDigit Nat.toDigits_ne_nil isDigit_of_mem_decimal,
        Nat.ofDigitChars_toDigits (by decide) (by decide)]
      rfl

/-- A number is written with as many digits as its absolute value has. -/
theorem digitCount_writeNumeral (number : Int) :
    digitCount (writeNumeral number).toList = (Nat.toDigits 10 number.natAbs).length := by
  cases number with
  | ofNat value =>
      rw [writeNumeral, String.toList_ofList, digitCount_of_isDigit isDigit_of_mem_decimal]
      rfl
  | negSucc value =>
      rw [writeNumeral, String.toList_ofList, digitCount_cons_of_none (by decide),
        digitCount_of_isDigit isDigit_of_mem_decimal]
      rfl

/-- A number below the power of ten that the limit allows is written within the limit. -/
theorem digitCount_writeNumeral_le {number : Int} (small : number.natAbs < 10 ^ digitLimit) :
    digitCount (writeNumeral number).toList ≤ digitLimit := by
  rw [digitCount_writeNumeral]
  exact (Nat.length_toDigits_le_iff (by decide) (by decide)).2 small

theorem isBlank_of_isDigit {character : Char} (isDigit : character.isDigit = true) :
    isBlank character = false := by
  have bounds := toNat_bounds isDigit
  simp only [isBlank, Bool.or_eq_false_iff, Bool.and_eq_false_iff, decide_eq_false_iff_not,
    beq_eq_false_iff_ne]
  omega

theorem noBlank_of_isDigit {word : List Char}
    (digits : ∀ character ∈ word, character.isDigit = true) : NoBlank word :=
  fun character inside => isBlank_of_isDigit (digits character inside)

/-- A number is written in digits, perhaps after a minus sign. -/
theorem mem_writeNumeral {number : Int} {character : Char}
    (inside : character ∈ (writeNumeral number).toList) :
    character = '-' ∨ character.isDigit = true := by
  cases number with
  | ofNat value =>
      rw [writeNumeral, String.toList_ofList] at inside
      exact Or.inr (isDigit_of_mem_decimal character inside)
  | negSucc value =>
      rw [writeNumeral, String.toList_ofList] at inside
      rcases List.mem_cons.1 inside with rfl | inside
      · exact Or.inl rfl
      · exact Or.inr (isDigit_of_mem_decimal character inside)

/-- A number is written as one word. -/
theorem noBlank_writeNumeral (number : Int) : NoBlank (writeNumeral number).toList := by
  intro character inside
  rcases mem_writeNumeral inside with rfl | isDigit
  · decide
  · exact isBlank_of_isDigit isDigit

theorem writeNumeral_ne_nil (number : Int) : (writeNumeral number).toList ≠ [] := by
  cases number with
  | ofNat value =>
      rw [writeNumeral, String.toList_ofList]
      exact Nat.toDigits_ne_nil
  | negSucc value =>
      rw [writeNumeral, String.toList_ofList]
      exact List.cons_ne_nil _ _

end Text

/-! ## Tokens -/

/-- A word is read as the number that it stands for, if it does not have too many digits. -/
theorem readToken_eq_ok_iff {word : List Char} (solid : Text.NoBlank word) {number : Int} :
    readToken word = .ok number ↔
      Text.integer? word = some number ∧ Text.digitCount word ≤ Text.digitLimit := by
  rw [← Text.readNumeral_eq_ok_iff, readToken, Text.strip_eq_self solid]
  split <;> simp [*]

/-- A token that cannot be read is a wrong value. -/
theorem failsAs_readToken (token : List Char) : FailsAs .value (readToken token) := by
  intro fault failed
  unfold readToken at failed
  split at failed <;> cases failed <;> rfl

end TensorLogic
