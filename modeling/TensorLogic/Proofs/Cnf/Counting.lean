/-
Module: TensorLogic.Proofs.Cnf.Counting
Purpose: How many clauses of one size there are, and that what is drawn are exactly these.
Main exports: binomial_eq_choose, Clause.IsRandom, Clause.mem_listed, Clause.length_listed,
  Clause.ncard_isRandom, Draw.IsSample.exists_clause, Clause.IsRandom.exists_draw
-/
import Mathlib.Data.Nat.Choose.Basic
import Mathlib.Data.Set.Card
import Mathlib.Tactic.Ring
import TensorLogic.Proofs.Cnf.Instance

namespace TensorLogic

/-!
The clauses of one size over so many variables are listed variable by variable.  A clause that has the last
variable ends with it where it is positive, and begins with it where it is negative, because the literals
are in ascending order; what is left is a clause over the other variables.  So the list grows as Pascal's
triangle does, with two clauses for each choice of a variable.
-/

/-! ## The number of choices -/

/-- Choices are counted as binomial coefficients. -/
theorem choices_eq_choose (total chosen : Nat) : choices total chosen = total.choose chosen := by
  induction chosen with
  | zero => simp [choices]
  | succ chosen hypothesis =>
      rw [choices, hypothesis, ← Nat.choose_succ_right_eq]
      exact Nat.mul_div_cancel _ (Nat.succ_pos chosen)

/-- The smaller of the two numbers is counted up to, which makes no difference. -/
theorem binomial_eq_choose (total chosen : Nat) : binomial total chosen = total.choose chosen := by
  unfold binomial
  by_cases few : total < chosen
  · simp [few, Nat.choose_eq_zero_of_lt few]
  · rw [if_neg few, choices_eq_choose]
    rcases Nat.le_total chosen (total - chosen) with isLess | isLess
    · exact congrArg total.choose (Nat.min_eq_left isLess)
    · exact (congrArg total.choose (Nat.min_eq_right isLess)).trans
        (Nat.choose_symm (Nat.le_of_not_lt few))

theorem clauseCount_eq (size total : Nat) : clauseCount size total = total.choose size * 2 ^ size := by
  rw [clauseCount, binomial_eq_choose]
  rfl

/-! ## All clauses of one size -/

namespace Clause

variable {size total : Nat} {clause : Clause}

/-- Whether a clause has so many literals over so many variables, in ascending order and no two of the same
variable. -/
structure IsRandom (size total : Nat) (clause : Clause) : Prop where
  length_eq : clause.length = size
  ascending : clause.Pairwise (· < ·)
  isLiteral : ∀ literal ∈ clause, IsLiteral total literal
  distinct : (clause.map Int.natAbs).Nodup

/-- The clauses of one size over so many variables. -/
def listed : Nat → Nat → List Clause
  | _, 0 => [[]]
  | 0, _ + 1 => []
  | total + 1, size + 1 =>
      listed total (size + 1) ++
        ((listed total size).map (fun clause => clause ++ [((total + 1 : Nat) : Int)]) ++
          (listed total size).map (fun clause => -((total + 1 : Nat) : Int) :: clause))

/-- The two clauses of one literal over one variable. -/
example : listed 1 1 = [[1], [-1]] := by decide

/-- As many clauses are listed as there are choices of variables with signs. -/
theorem length_listed (total size : Nat) :
    (listed total size).length = total.choose size * 2 ^ size := by
  induction total generalizing size with
  | zero => cases size <;> simp [listed]
  | succ total hypothesis =>
      cases size with
      | zero => simp [listed]
      | succ size =>
          simp only [listed, List.length_append, List.length_map, hypothesis, Nat.choose_succ_succ,
            Nat.pow_succ]
          ring

theorem isRandom_zero : IsRandom 0 total clause ↔ clause = [] := by
  constructor
  · exact fun random => List.eq_nil_of_length_eq_zero random.length_eq
  · rintro rfl
    exact ⟨rfl, .nil, by simp, by simp⟩

/-- A clause over some variables is one over more of them. -/
theorem IsRandom.succ (random : clause.IsRandom size total) : clause.IsRandom size (total + 1) :=
  ⟨random.length_eq, random.ascending, fun literal listed =>
    ⟨(random.isLiteral literal listed).1, Nat.le_succ_of_le (random.isLiteral literal listed).2⟩,
    random.distinct⟩

/-- A clause that ends with the last variable. -/
theorem isRandom_concat :
    IsRandom (size + 1) (total + 1) (clause ++ [((total + 1 : Nat) : Int)]) ↔
      IsRandom size total clause := by
  constructor
  · rintro ⟨counted, ascending, isLiteral, distinct⟩
    simp only [List.map_append, List.nodup_append, List.map_cons, List.map_nil,
      List.mem_singleton, forall_eq, List.mem_map, Int.natAbs_natCast] at distinct
    refine ⟨by simpa using counted, (List.pairwise_append.1 ascending).1, fun literal listed => ?_,
      distinct.1⟩
    have isOther := distinct.2.2 literal.natAbs ⟨literal, listed, rfl⟩
    have bound := isLiteral literal (List.mem_append_left _ listed)
    exact ⟨bound.1, by have := bound.2; omega⟩
  · rintro ⟨counted, ascending, isLiteral, distinct⟩
    constructor
    · simp [counted]
    · simp only [List.pairwise_append, ascending, List.pairwise_singleton, List.mem_singleton,
        forall_eq, true_and]
      intro literal listed
      have bound := (isLiteral literal listed).2
      omega
    · intro literal listed
      rcases List.mem_append.1 listed with listed | isLast
      · have bound := isLiteral literal listed
        exact ⟨bound.1, Nat.le_succ_of_le bound.2⟩
      · rw [List.mem_singleton.1 isLast]
        exact ⟨by omega, by omega⟩
    · simp only [List.map_append, List.nodup_append, distinct, List.map_cons, List.map_nil,
        List.nodup_singleton, List.mem_singleton, forall_eq, List.mem_map, true_and]
      rintro number ⟨literal, listed, rfl⟩
      have bound := (isLiteral literal listed).2
      omega

/-- A clause that begins with the negation of the last variable. -/
theorem isRandom_cons :
    IsRandom (size + 1) (total + 1) (-((total + 1 : Nat) : Int) :: clause) ↔
      IsRandom size total clause := by
  constructor
  · rintro ⟨counted, ascending, isLiteral, distinct⟩
    simp only [List.map_cons, List.nodup_cons, List.mem_map, Int.natAbs_neg,
      Int.natAbs_natCast] at distinct
    refine ⟨by simpa using counted, (List.pairwise_cons.1 ascending).2, fun literal listed => ?_,
      distinct.2⟩
    have isOther : literal.natAbs ≠ total + 1 := fun same => distinct.1 ⟨literal, listed, same⟩
    have bound := isLiteral literal (List.mem_cons_of_mem _ listed)
    exact ⟨bound.1, by have := bound.2; omega⟩
  · rintro ⟨counted, ascending, isLiteral, distinct⟩
    constructor
    · simp [counted]
    · simp only [List.pairwise_cons, ascending, and_true]
      intro literal listed
      have bound := (isLiteral literal listed).2
      omega
    · intro literal listed
      rcases List.mem_cons.1 listed with rfl | listed
      · exact ⟨by omega, by omega⟩
      · have bound := isLiteral literal listed
        exact ⟨bound.1, Nat.le_succ_of_le bound.2⟩
    · simp only [List.map_cons, List.nodup_cons, distinct, and_true, List.mem_map]
      rintro ⟨literal, listed, same⟩
      have bound := (isLiteral literal listed).2
      omega

/-- A clause without the last variable. -/
theorem isRandom_succ (positive : ((total + 1 : Nat) : Int) ∉ clause)
    (negative : -((total + 1 : Nat) : Int) ∉ clause) :
    IsRandom size (total + 1) clause ↔ IsRandom size total clause := by
  refine ⟨fun random => ?_, IsRandom.succ⟩
  refine ⟨random.length_eq, random.ascending, fun literal listed => ?_, random.distinct⟩
  have bound := random.isLiteral literal listed
  have notPositive : literal ≠ ((total + 1 : Nat) : Int) := fun same => positive (same ▸ listed)
  have notNegative : literal ≠ -((total + 1 : Nat) : Int) := fun same => negative (same ▸ listed)
  exact ⟨bound.1, by have := bound.2; omega⟩

/-- The last variable is the last literal of a clause that has it. -/
theorem IsRandom.exists_concat (random : clause.IsRandom size (total + 1))
    (isOne : ((total + 1 : Nat) : Int) ∈ clause) :
    ∃ front : Clause, clause = front ++ [((total + 1 : Nat) : Int)] := by
  have nonempty : clause ≠ [] := List.ne_nil_of_mem isOne
  refine ⟨clause.dropLast, ?_⟩
  have split := List.dropLast_concat_getLast nonempty
  have ascending := random.ascending
  rw [← split] at isOne ascending
  rcases List.mem_append.1 isOne with before | isLast
  · have less := (List.pairwise_append.1 ascending).2.2 _ before _ (List.mem_singleton.2 rfl)
    have bound := (random.isLiteral _ (List.getLast_mem nonempty)).2
    omega
  · rw [List.mem_singleton.1 isLast]
    exact split.symm

/-- The negation of the last variable is the first literal of a clause that has it. -/
theorem IsRandom.exists_cons (random : clause.IsRandom size (total + 1))
    (isOne : -((total + 1 : Nat) : Int) ∈ clause) :
    ∃ rest : Clause, clause = -((total + 1 : Nat) : Int) :: rest := by
  cases clause with
  | nil => cases isOne
  | cons first rest =>
      rcases List.mem_cons.1 isOne with rfl | after
      · exact ⟨rest, rfl⟩
      · have less := (List.pairwise_cons.1 random.ascending).1 _ after
        have bound := (random.isLiteral first List.mem_cons_self).2
        omega

/-- The clauses that are listed are those of that size. -/
theorem mem_listed : clause ∈ listed total size ↔ clause.IsRandom size total := by
  induction total generalizing size clause with
  | zero =>
      cases size with
      | zero => simp [listed, isRandom_zero]
      | succ size =>
          simp only [listed, List.not_mem_nil, false_iff]
          rintro ⟨counted, -, isLiteral, -⟩
          cases clause with
          | nil => cases counted
          | cons literal rest =>
              have isLiteral := isLiteral literal List.mem_cons_self
              exact isLiteral.1 (by have := isLiteral.2; omega)
  | succ total hypothesis =>
      cases size with
      | zero => simp [listed, isRandom_zero]
      | succ size =>
          simp only [listed, List.mem_append, List.mem_map, hypothesis]
          constructor
          · rintro (random | ⟨front, random, rfl⟩ | ⟨rest, random, rfl⟩)
            · exact random.succ
            · exact isRandom_concat.2 random
            · exact isRandom_cons.2 random
          · intro random
            by_cases positive : ((total + 1 : Nat) : Int) ∈ clause
            · rcases random.exists_concat positive with ⟨front, rfl⟩
              exact .inr (.inl ⟨front, isRandom_concat.1 random, rfl⟩)
            · by_cases negative : -((total + 1 : Nat) : Int) ∈ clause
              · rcases random.exists_cons negative with ⟨rest, rfl⟩
                exact .inr (.inr ⟨rest, isRandom_cons.1 random, rfl⟩)
              · exact .inl ((isRandom_succ positive negative).1 random)

/-- The last variable is not among the others. -/
theorem IsRandom.not_mem (random : clause.IsRandom size total) {literal : Int}
    (isLast : literal.natAbs = total + 1) : literal ∉ clause := by
  intro listed
  have bound := (random.isLiteral literal listed).2
  omega

/-- No clause is listed twice. -/
theorem nodup_listed (total size : Nat) : (listed total size).Nodup := by
  induction total generalizing size with
  | zero => cases size <;> simp [listed]
  | succ total hypothesis =>
      cases size with
      | zero => simp [listed]
      | succ size =>
          have ends : Function.Injective fun clause : Clause => clause ++ [((total + 1 : Nat) : Int)] :=
            fun first second same => List.append_cancel_right same
          have begins : Function.Injective
              fun clause : Clause => -((total + 1 : Nat) : Int) :: clause :=
            fun first second same => (List.cons.inj same).2
          simp only [listed, List.nodup_append', hypothesis, (hypothesis size).map ends,
            (hypothesis size).map begins, true_and]
          constructor
          · intro clause isFirst isSecond
            rcases List.mem_map.1 isFirst with ⟨front, isFront, rfl⟩
            rcases List.mem_map.1 isSecond with ⟨rest, -, same⟩
            have listed : -((total + 1 : Nat) : Int) ∈ front ++ [((total + 1 : Nat) : Int)] :=
              same ▸ List.mem_cons_self
            rcases List.mem_append.1 listed with before | isLast
            · exact (mem_listed.1 isFront).not_mem (by omega) before
            · have isLast := List.mem_singleton.1 isLast
              omega
          · intro clause without isSecond
            have random := mem_listed.1 without
            rcases List.mem_append.1 isSecond with isEnd | isBegin
            · rcases List.mem_map.1 isEnd with ⟨front, -, rfl⟩
              have isLast : ((total + 1 : Nat) : Int) ∈ front ++ [((total + 1 : Nat) : Int)] := by simp
              exact random.not_mem (Int.natAbs_natCast _) isLast
            · rcases List.mem_map.1 isBegin with ⟨rest, -, rfl⟩
              have isFirst : -((total + 1 : Nat) : Int) ∈ -((total + 1 : Nat) : Int) :: rest :=
                List.mem_cons_self
              exact random.not_mem (by omega) isFirst

/-- There are as many clauses of one size as the bound on the number of clauses says. -/
theorem ncard_isRandom (size total : Nat) :
    Set.ncard {clause : Clause | clause.IsRandom size total} = clauseCount size total := by
  have isListed : {clause : Clause | clause.IsRandom size total} = ↑(listed total size).toFinset := by
    ext clause
    simp [mem_listed]
  rw [isListed, Set.ncard_coe_finset, List.toFinset_card_of_nodup (nodup_listed total size),
    length_listed, clauseCount_eq]

/-- There are clauses of every size up to the number of variables. -/
theorem ncard_pos (fit : size ≤ total) :
    0 < Set.ncard {clause : Clause | clause.IsRandom size total} := by
  rw [ncard_isRandom, clauseCount_eq]
  exact Nat.mul_pos (Nat.choose_pos fit) (Nat.two_pow_pos size)

end Clause

/-! ## Clauses that are drawn -/

namespace Draw

variable {size total : Nat} {draw : Draw} {clause : Clause}

/-- The literal of a place and of whether it is negated. -/
def signed (drawn : Nat × Bool) : Int := if drawn.2 then -drawn.1 - 1 else drawn.1 + 1

theorem literal_eq (drawn : Nat × Bool) :
    Draw.literal (.int drawn.1) (.int drawn.2.toInt) = .ok (signed drawn) := by
  rcases drawn with ⟨number, flip⟩
  rw [Draw.literal, Datum.truncated_int]
  cases flip <;> rfl

/-- The sign of a drawn variable does not change its number. -/
theorem natAbs_signed (drawn : Nat × Bool) : (signed drawn).natAbs = drawn.1 + 1 := by
  unfold signed
  split <;> omega

/-- The clause of a draw has the literals of the places and the signs, in ascending order. -/
theorem clause_eq {numbers : List Nat} {flips : List Bool}
    (arePlaces : draw.places = numbers.map fun number : Nat => Datum.int number)
    (areSigns : draw.signs = flips.map fun flip => Datum.int flip.toInt) :
    draw.clause = .ok (((numbers.zip flips).map signed).mergeSort (· ≤ ·)) := by
  have read : ((draw.places.zip draw.signs).mapM fun drawn => Draw.literal drawn.1 drawn.2) =
      .ok ((numbers.zip flips).map signed) := by
    rw [arePlaces, areSigns, List.zip_map, List.mapM_map]
    exact Outcome.mapM_eq_ok fun drawn _ => literal_eq drawn
  rw [Draw.clause, read]
  rfl

/-- Every sample is drawn as a clause of its size. -/
theorem IsSample.exists_clause (sample : draw.IsSample size total) :
    ∃ clause, draw.clause = .ok clause ∧ clause.IsRandom size total := by
  rcases sample.places with ⟨numbers, arePlaces, counted, nodup, below⟩
  rcases sample.signs with ⟨flips, areSigns, alsoCounted⟩
  have drawn := clause_eq arePlaces areSigns
  have permuted := List.mergeSort_perm ((numbers.zip flips).map signed) (· ≤ ·)
  have areVariables : ((numbers.zip flips).map signed).map Int.natAbs = numbers.map (· + 1) := by
    have lengths : numbers.length ≤ flips.length := by omega
    conv_rhs => rw [← List.map_fst_zip lengths]
    simp [natAbs_signed]
  have distinct : ((numbers.zip flips).map signed |>.mergeSort (· ≤ ·)).map Int.natAbs |>.Nodup := by
    rw [(permuted.map Int.natAbs).nodup_iff, areVariables]
    exact nodup.map fun first second same => Nat.succ.inj same
  refine ⟨_, drawn, ?_, ?_, sample.isLiteral drawn, distinct⟩
  · rw [permuted.length_eq, List.length_map, List.length_zip]
    omega
  · have ordered := @List.pairwise_mergeSort Int (fun first second => decide (first ≤ second))
      (by simpa using fun _ _ _ => Int.le_trans) (by simpa using Int.le_total)
      ((numbers.zip flips).map signed)
    apply (ordered.and distinct.of_map).imp
    rintro first second ⟨atMost, differ⟩
    exact Int.lt_iff_le_and_ne.2 ⟨of_decide_eq_true atMost, differ⟩

end Draw

/-- Every clause of a size is drawn by some sample. -/
theorem Clause.IsRandom.exists_draw {size total : Nat} {clause : Clause}
    (random : clause.IsRandom size total) :
    ∃ draw : Draw, draw.IsSample size total ∧ draw.clause = .ok clause := by
  have isPositive : ∀ literal ∈ clause, 0 < literal.natAbs := fun literal listed =>
    Int.natAbs_pos.2 (random.isLiteral literal listed).1
  have places : List.Nodup (clause.map fun literal => literal.natAbs - 1) := by
    have isImage : (clause.map fun literal => literal.natAbs - 1) =
        (clause.map Int.natAbs).map (· - 1) := by simp
    rw [isImage]
    refine random.distinct.map_on ?_
    simp only [List.mem_map]
    rintro _ ⟨first, isFirst, rfl⟩ _ ⟨second, isSecond, rfl⟩ same
    have := isPositive first isFirst
    have := isPositive second isSecond
    omega
  refine ⟨⟨(clause.map fun literal => literal.natAbs - 1).map fun number : Nat => Datum.int number,
    (clause.map fun literal => decide (literal < 0)).map fun flip => Datum.int flip.toInt⟩,
    ⟨⟨_, rfl, by simp [random.length_eq], places, ?_⟩, ⟨_, rfl, by simp [random.length_eq]⟩⟩, ?_⟩
  · intro number isOne
    rcases List.mem_map.1 isOne with ⟨literal, listed, rfl⟩
    have nonzero := isPositive literal listed
    have atMost := (random.isLiteral literal listed).2
    omega
  · rw [Draw.clause_eq rfl rfl, List.zip_map', List.map_map]
    have same : clause.map (Draw.signed ∘ fun literal => (literal.natAbs - 1, decide (literal < 0))) =
        clause := by
      refine (List.map_congr_left fun literal listed => ?_).trans (List.map_id clause)
      have nonzero := isPositive literal listed
      by_cases isNegative : literal < 0
      · simp only [Function.comp_apply, Draw.signed, isNegative, decide_true, if_true, id_eq]
        omega
      · simp only [Function.comp_apply, Draw.signed, isNegative, decide_false, if_false, id_eq,
          Bool.false_eq_true]
        omega
    rw [same, List.mergeSort_of_pairwise]
    exact random.ascending.imp fun less => decide_eq_true (Int.le_of_lt less)

end TensorLogic
