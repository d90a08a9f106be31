/-
Module: TensorLogic.Proofs.Cnf.Instance
Purpose: The formulas that there are: given by their clauses, read from a text, or drawn.
Main exports: Cnf.clausesDatum, Cnf.ofData_isOver, Cnf.ofData_given, Draw.IsSample, Cnf.random_isOver,
  Cnf.Made, Cnf.made_iff_isOver, Cnf.IsPlain
-/
import TensorLogic.Cnf.Random
import TensorLogic.Proofs.Cnf.Grammar

namespace TensorLogic

/-! ## Formulas that are given -/

theorem Datum.whole_ofWhole (whole : Whole) : (Datum.ofWhole whole).whole = .ok whole := by
  rw [Datum.whole, Datum.ofWhole, Datum.whole?, Scalar.whole?_ofWhole]

namespace Cnf

/-- A clause as a datum, its literals as they are given. -/
def clauseDatum (clause : WrittenClause) : Datum := .ofList (clause.map Datum.ofWhole)

/-- Clauses as a datum. -/
def clausesDatum (clauses : List WrittenClause) : Datum := .ofList (clauses.map clauseDatum)

/-- What is accepted has literals over its variables only. -/
theorem ofData_isOver {numVars clauses : Datum} {cnf : Cnf} (made : ofData numVars clauses = .ok cnf) :
    cnf.formula.IsOver cnf.numVars.value := by
  simp only [ofData, Outcome.bind_eq_ok_iff] at made
  obtain ⟨total, _, items, _, given, _, made⟩ := made
  split at made
  · cases made
  · obtain ⟨_, _, made⟩ := Outcome.bind_eq_ok_iff.1 made
    exact (ofClauses_eq_ok_iff.1 made).2.2

theorem clauseOfDatum_clauseDatum (clause : WrittenClause) :
    clauseOfDatum (clauseDatum clause) = .ok (some clause) := by
  have wholes : (clauseDatum clause).wholes = .ok clause := by
    change (clause.map Datum.ofWhole).mapM Datum.whole = .ok clause
    rw [List.mapM_map]
    have each : ∀ whole ∈ clause, (Datum.whole ∘ Datum.ofWhole) whole = .ok (id whole) :=
      fun whole _ => Datum.whole_ofWhole whole
    rw [Outcome.mapM_eq_ok each, List.map_id]
  rw [clauseOfDatum, wholes]
  rfl

theorem askForZeros_ok {clauses : List WrittenClause}
    (noZero : ∀ clause ∈ clauses, 0 ∉ clause.literals) :
    askForZeros (clauses.map some) = .ok () := by
  induction clauses with
  | nil => rfl
  | cons clause clauses hypothesis =>
      have absent := noZero clause List.mem_cons_self
      rw [List.map_cons, askForZeros, if_neg (by simpa using absent)]
      exact hypothesis fun other member => noZero other (List.mem_cons_of_mem _ member)

/-- A formula whose literals are over its variables is accepted, and is itself again. -/
theorem ofData_given {cnf : Cnf} (isOver : cnf.formula.IsOver cnf.numVars.value) :
    ofData (.ofCount cnf.numVars) (clausesDatum cnf.clauses) = .ok cnf := by
  have read : (Datum.ofCount cnf.numVars).whole = .ok cnf.numVars.toWhole := Datum.whole_ofWhole _
  have members : (clausesDatum cnf.clauses).sequence = .ok (cnf.clauses.map clauseDatum) := rfl
  have given : (cnf.clauses.map clauseDatum).mapM clauseOfDatum = .ok (cnf.clauses.map some) := by
    rw [List.mapM_map]
    exact Outcome.mapM_eq_ok fun clause _ => clauseOfDatum_clauseDatum clause
  have written : (cnf.clauses.map some).filterMap id = cnf.clauses := by
    rw [List.filterMap_map]
    exact List.filterMap_some
  have inRange : ((cnf.clauses.flatMap WrittenClause.literals).any fun literal =>
      decide (cnf.numVars.toWhole.value < literal.natAbs)) = false := by
    rw [List.any_eq_false]
    intro literal member
    obtain ⟨clause, inFormula, inClause⟩ := List.mem_flatMap.1 member
    have atMost := (isOver _ (List.mem_map_of_mem inFormula) literal inClause).2
    rw [Count.value_toWhole, decide_eq_true_iff]
    exact Int.not_lt.2 (Int.ofNat_le.2 atMost)
  have notNegative : ¬cnf.numVars.toWhole.value < 0 := by
    rw [Count.value_toWhole]
    omega
  have noZeros : askForZeros (cnf.clauses.map some) = .ok () := askForZeros_ok fun clause member =>
    noZero_of_isOver isOver _ (List.mem_map_of_mem member)
  simp only [ofData, read, members, given, written, bind, Except.bind, inRange, notNegative,
    decide_false, Bool.or_false, Bool.false_eq_true, if_false, noZeros]
  exact ofClauses_eq_ok_iff.2 ⟨rfl, rfl, isOver⟩

end Cnf

/-! ## Formulas that are drawn -/

/-- What a generator draws for a clause: so many different numbers below a total, and as many signs. -/
structure Draw.IsSample (size total : Nat) (draw : Draw) : Prop where
  places : ∃ numbers : List Nat, draw.places = numbers.map (fun number : Nat => Datum.int number) ∧
    numbers.length = size ∧ numbers.Nodup ∧ ∀ number ∈ numbers, number < total
  signs : ∃ flips : List Bool, draw.signs = flips.map (fun flip => Datum.int flip.toInt) ∧
    flips.length = size

theorem Datum.truncated_int (number : Int) : (Datum.int number).truncated = .ok number := rfl

/-- A literal that is drawn at a place is the variable there or its negation. -/
theorem Draw.literal_of_place {number : Nat} {sign : Datum} {literal : Int}
    (drawn : Draw.literal (.int number) sign = .ok literal) :
    literal ≠ 0 ∧ literal.natAbs = number + 1 := by
  rw [Draw.literal, Datum.truncated_int] at drawn
  simp only [bind, Except.bind, pure, Except.pure, Except.ok.injEq] at drawn
  split at drawn
  · omega
  · omega

/-- The literals of a clause that is drawn have the variables that were drawn. -/
theorem Draw.IsSample.isLiteral {size total : Nat} {draw : Draw} (sample : draw.IsSample size total)
    {clause : Clause} (drawn : draw.clause = .ok clause) :
    ∀ literal ∈ clause, IsLiteral total literal := by
  obtain ⟨numbers, arePlaces, _, _, below⟩ := sample.places
  obtain ⟨literals, read, sorted⟩ := Outcome.bind_eq_ok_iff.1 drawn
  cases sorted
  intro literal member
  obtain ⟨⟨place, sign⟩, inZip, isLiteral⟩ :=
    Outcome.of_mem_mapM read (List.mem_mergeSort.1 member)
  have isPlace := (List.of_mem_zip inZip).1
  rw [arePlaces] at isPlace
  obtain ⟨number, inNumbers, rfl⟩ := List.mem_map.1 isPlace
  obtain ⟨nonzero, isVariable⟩ := Draw.literal_of_place isLiteral
  have bound := below number inNumbers
  exact ⟨nonzero, by omega⟩

namespace Cnf

/-- Every clause that is collected was found before or is drawn. -/
theorem mem_collect {missing : Nat} {found : Found} {draws left : List Draw} {formula : Formula}
    (collected : collect missing found draws = .ok (formula, left)) :
    ∀ clause ∈ formula, clause ∈ found.clauses ∨ ∃ draw ∈ draws, draw.clause = .ok clause := by
  fun_induction collect missing found draws with
  | case1 found =>
      cases collected
      exact fun clause member => Or.inl (List.mem_reverse.1 member)
  | case2 => cases collected
  | case3 found draw draws =>
      cases collected
      exact fun clause member => Or.inl (List.mem_reverse.1 member)
  | case4 => cases collected
  | case5 missing found draw draws _ clause drawn isKnown hypothesis =>
      intro other member
      rcases hypothesis collected other member with before | ⟨later, inside, isOther⟩
      · exact Or.inl before
      · exact Or.inr ⟨later, List.mem_cons_of_mem _ inside, isOther⟩
  | case6 missing found draw draws _ clause drawn isKnown hypothesis =>
      intro other member
      rcases hypothesis collected other member with before | ⟨later, inside, isOther⟩
      · rcases List.mem_cons.1 before with rfl | before
        · exact Or.inr ⟨draw, List.mem_cons_self, drawn⟩
        · exact Or.inl before
      · exact Or.inr ⟨later, List.mem_cons_of_mem _ inside, isOther⟩

/-- A formula is drawn as numbers, over the number of variables that was asked for. -/
theorem random_eq {parameters : Parameters} {draws left : List Draw} {cnf : Cnf}
    (drawn : random parameters draws = .ok (cnf, left)) :
    ∃ clauses : Formula, cnf = ⟨parameters.numVars, clauses.map Clause.written⟩ ∧
      ∀ clause ∈ clauses, ∃ draw ∈ draws, draw.clause = .ok clause := by
  obtain ⟨⟨clauses, rest⟩, collected, made⟩ := Outcome.bind_eq_ok_iff.1 drawn
  cases made
  refine ⟨clauses, rfl, fun clause member => ?_⟩
  rcases mem_collect collected clause member with none | found
  · cases none
  · exact found

/-- What is drawn has literals over its variables only. -/
theorem random_isOver {parameters : Parameters} {draws left : List Draw} {cnf : Cnf} {size : Nat}
    (samples : ∀ draw ∈ draws, draw.IsSample size parameters.numVars.value)
    (drawn : random parameters draws = .ok (cnf, left)) : cnf.formula.IsOver cnf.numVars.value := by
  obtain ⟨clauses, rfl, areDrawn⟩ := random_eq drawn
  intro clause member
  rw [formula, literals_map_written] at member
  obtain ⟨draw, inside, isClause⟩ := areDrawn clause member
  exact (samples draw inside).isLiteral isClause

/-! ## All formulas -/

/-- The formulas that there are: what is accepted, what a text is read as, and what is drawn with parameters
that are accepted. -/
inductive Made : Cnf → Prop
  | given {numVars clauses : Datum} {cnf : Cnf} : ofData numVars clauses = .ok cnf → Made cnf
  | read {text : String} {cnf : Cnf} : ofDimacs text = .ok cnf → Made cnf
  | drawn {size numVars count : Datum} {parameters : Parameters} {draws left : List Draw}
      {cnf : Cnf} :
      Parameters.ofData size numVars count = .ok parameters →
      (∀ draw ∈ draws, draw.IsSample parameters.size.value.toNat parameters.numVars.value) →
      random parameters draws = .ok (cnf, left) → Made cnf

/-- The formulas that there are, are those whose literals are over their variables. -/
theorem made_iff_isOver {cnf : Cnf} : cnf.Made ↔ cnf.formula.IsOver cnf.numVars.value := by
  constructor
  · intro made
    cases made with
    | given made => exact ofData_isOver made
    | read made =>
        obtain ⟨numVars, clauses, rfl, ⟨_, _, _, _, _, isOver⟩, _⟩ := ofDimacs_eq_ok_iff.1 made
        rw [formula, ofNumbers, literals_map_written]
        exact isOver
    | drawn _ samples made => exact random_isOver samples made
  · exact fun isOver => Made.given (ofData_given isOver)

/-- A formula that was given in numbers only, without truth values. -/
structure IsPlain (cnf : Cnf) : Prop where
  numVars : cnf.numVars = .number cnf.numVars.value
  literals : ∀ clause ∈ cnf.clauses, ∀ literal ∈ clause, literal = .number literal.value

/-- A formula of numbers is a plain one. -/
theorem isPlain_ofNumbers (numVars : Nat) (clauses : Formula) : (ofNumbers numVars clauses).IsPlain where
  numVars := rfl
  literals := by
    intro clause member literal inside
    obtain ⟨numbers, _, rfl⟩ := List.mem_map.1 member
    obtain ⟨number, _, rfl⟩ := List.mem_map.1 inside
    rfl

/-- A plain formula is its numbers. -/
theorem IsPlain.eq_ofNumbers {cnf : Cnf} (plain : cnf.IsPlain) :
    cnf = ofNumbers cnf.numVars.value cnf.formula := by
  have written : ∀ clause ∈ cnf.clauses, clause = (WrittenClause.literals clause).written :=
    fun clause member => by
      rw [WrittenClause.literals, Clause.written, List.map_map]
      exact ((List.map_congr_left fun literal inside =>
        (plain.literals clause member literal inside).symm).trans (List.map_id clause)).symm
  have clauses : cnf.clauses = cnf.formula.map Clause.written := by
    rw [formula, List.map_map]
    exact ((List.map_congr_left fun clause member =>
      (written clause member).symm).trans (List.map_id _)).symm
  calc cnf = ⟨cnf.numVars, cnf.clauses⟩ := rfl
    _ = ofNumbers cnf.numVars.value cnf.formula := by rw [ofNumbers, ← plain.numVars, ← clauses]

/-- What is drawn is plain if the number of variables was given as a number. -/
theorem isPlain_random {parameters : Parameters} {draws left : List Draw} {cnf : Cnf}
    (drawn : random parameters draws = .ok (cnf, left)) :
    cnf.IsPlain ↔ parameters.numVars = .number parameters.numVars.value := by
  obtain ⟨clauses, rfl, _⟩ := random_eq drawn
  constructor
  · exact fun plain => plain.numVars
  · exact fun isNumber => ⟨isNumber, (isPlain_ofNumbers 0 clauses).literals⟩

end Cnf

end TensorLogic
