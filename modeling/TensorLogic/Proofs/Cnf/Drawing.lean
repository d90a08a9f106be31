/-
Module: TensorLogic.Proofs.Cnf.Drawing
Purpose: Random formulas: which are refused, and what is made of every sequence of draws.
Main exports: Cnf.Parameters.Refused, Cnf.Parameters.Uncountable, Cnf.Parameters.ofData_cases,
  Draw.distinct, Draw.distinct_concat, Cnf.collect_cases, Cnf.Drawing, Cnf.drawing, Cnf.RandomFormulas,
  Cnf.random_formulas
-/
import TensorLogic.Proofs.Cnf.Counting

namespace TensorLogic

/-!
A random formula is asked for by the size of its clauses, the number of its variables and the number of its
clauses.  More clauses than there are would never be found, so they are refused.  The number of clauses is
computed from a binomial coefficient, and this is where the only other refusal comes from: both the
variables of a clause and the others may be too many to count up to.

After that the draws decide.  A formula in the making is the list of the different clauses drawn so far, in
the order of their first occurrence; it ends with the draw that completes it.
-/

/-! ## Parameters -/

namespace Exact

theorem less_ofInt (left right : Int) : (ofInt left).less (ofInt right) = decide (left < right) := by
  simp [less, align, ofInt]

theorem ceiling_ofInt (value : Int) : (ofInt value).ceiling = value := by
  simp [ceiling, ofInt]

end Exact

namespace Quantity

theorem less_ofInt (left right : Int) : (ofInt left).less (ofInt right) = decide (left < right) :=
  Exact.less_ofInt left right

theorem atMost_ofInt (left right : Int) :
    (ofInt left).atMost (ofInt right) = decide (left ≤ right) := by
  rw [atMost, less_ofInt, ← decide_not, decide_eq_decide]
  exact Int.not_lt

end Quantity

namespace Cnf

theorem parameter_ofWhole (whole : Whole) :
    parameter (.ofWhole whole) = .ok (.ofInt whole.value) := by
  cases whole <;> rfl

namespace Parameters

/-- Whether a random formula is refused as a wrong value: a number is too small, or there are fewer clauses
than are asked for. -/
def Refused (size numVars count : Int) : Prop :=
  size ≤ 0 ∨ numVars < size ∨ count ≤ 0 ∨
    (min size (numVars - size) < wordLimit ∧
      (Set.ncard {clause : Clause | clause.IsRandom size.toNat numVars.toNat} : Int) < count)

/-- Whether the clauses are too many to be counted. -/
def Uncountable (size numVars count : Int) : Prop :=
  0 < size ∧ size ≤ numVars ∧ 0 < count ∧ (wordLimit : Int) ≤ min size (numVars - size)

/-- Parameters that are refused are refused before anything is counted. -/
theorem Refused.countable {size numVars count : Int} (refused : Refused size numVars count) :
    ¬ Uncountable size numVars count := by
  unfold Refused at refused
  unfold Uncountable
  omega

section

variable {size numVars count : Whole}

/-- A clause size that is not positive is the first to be refused. -/
theorem ofData_of_size (small : size.value ≤ 0) :
    ofData (.ofWhole size) (.ofWhole numVars) (.ofWhole count) = .error .clauseSize := by
  simp [ofData, parameter_ofWhole, bind, Except.bind, Quantity.atMost_ofInt, small]
  rfl

/-- Too few variables for the size are refused next. -/
theorem ofData_of_numVars (enough : ¬ size.value ≤ 0) (few : numVars.value < size.value) :
    ofData (.ofWhole size) (.ofWhole numVars) (.ofWhole count) =
      .error (.tooFewVariables (.ofWhole size)) := by
  simp [ofData, parameter_ofWhole, bind, Except.bind, Quantity.atMost_ofInt, Quantity.less_ofInt, enough,
    few]
  rfl

/-- A number of clauses that is not positive is refused third. -/
theorem ofData_of_count (enough : ¬ size.value ≤ 0) (fit : ¬ numVars.value < size.value)
    (small : count.value ≤ 0) :
    ofData (.ofWhole size) (.ofWhole numVars) (.ofWhole count) = .error .clauseNumber := by
  simp [ofData, parameter_ofWhole, bind, Except.bind, Quantity.atMost_ofInt, Quantity.less_ofInt, enough,
    fit, small]
  rfl

/-- Numbers that are large enough are compared with the number of clauses, if that can be counted. -/
theorem ofData_of_positive {total : Count} (enough : ¬ size.value ≤ 0)
    (fit : ¬ (total.value : Int) < size.value) (asked : ¬ count.value ≤ 0) :
    ofData (.ofWhole size) (.ofWhole total.toWhole) (.ofWhole count) =
      if wordLimit ≤ Nat.min size.value.toNat (total.value - size.value.toNat) then .error .hugeChoice
      else if (clauseCount size.value.toNat total.value : Int) < count.value then
        .error (.tooManyClauses (clauseCount size.value.toNat total.value))
      else .ok ⟨size, total, count.value.toNat⟩ := by
  have isCount : total.toWhole.count? = some total := Whole.count?_eq_some_iff.2 rfl
  simp only [ofData, parameter_ofWhole, bind, Except.bind, Quantity.atMost_ofInt, Quantity.less_ofInt,
    Datum.whole_ofWhole, isCount, Count.value_toWhole, enough, fit, asked, decide_false,
    Bool.false_eq_true, if_false]
  simp only [Quantity.ofInt, Exact.less_ofInt, Exact.ceiling_ofInt, decide_eq_true_eq]
  rfl

end

/-- What comes of three numbers. -/
theorem ofData_cases (size numVars count : Whole) :
    (Refused size.value numVars.value count.value ∧ ∃ fault,
        ofData (.ofWhole size) (.ofWhole numVars) (.ofWhole count) = .error fault ∧
          fault.category = .value) ∨
      (Uncountable size.value numVars.value count.value ∧
        ofData (.ofWhole size) (.ofWhole numVars) (.ofWhole count) = .error .hugeChoice) ∨
      (¬ Refused size.value numVars.value count.value ∧
        ¬ Uncountable size.value numVars.value count.value ∧
          ∃ total : Count, numVars = total.toWhole ∧
            ofData (.ofWhole size) (.ofWhole numVars) (.ofWhole count) =
              .ok ⟨size, total, count.value.toNat⟩) := by
  by_cases small : size.value ≤ 0
  · exact .inl ⟨.inl small, _, ofData_of_size small, rfl⟩
  by_cases few : numVars.value < size.value
  · exact .inl ⟨.inr (.inl few), _, ofData_of_numVars small few, rfl⟩
  by_cases none : count.value ≤ 0
  · exact .inl ⟨.inr (.inr (.inl none)), _, ofData_of_count small few none, rfl⟩
  have nonnegative : 0 ≤ numVars.value := by omega
  rcases Whole.exists_count nonnegative with ⟨total, rfl⟩
  rw [Count.value_toWhole] at few ⊢
  have evaluated := ofData_of_positive small few none
  have isMin : ((Nat.min size.value.toNat (total.value - size.value.toNat) : Nat) : Int) =
      min size.value (total.value - size.value) := by
    change ((min size.value.toNat (total.value - size.value.toNat) : Nat) : Int) = _
    omega
  simp only [Refused, Uncountable, small, few, none, Clause.ncard_isRandom, Int.toNat_natCast,
    false_or]
  by_cases huge : wordLimit ≤ Nat.min size.value.toNat (total.value - size.value.toNat)
  · rw [if_pos huge] at evaluated
    exact .inr (.inl ⟨by omega, evaluated⟩)
  · rw [if_neg huge] at evaluated
    by_cases many : (clauseCount size.value.toNat total.value : Int) < count.value
    · rw [if_pos many] at evaluated
      exact .inl ⟨⟨by omega, many⟩, _, evaluated, rfl⟩
    · rw [if_neg many] at evaluated
      exact .inr (.inr ⟨by omega, by omega, total, rfl, evaluated⟩)

end Parameters

end Cnf

/-! ## First occurrences -/

section

variable {α : Type} [BEq α] [LawfulBEq α]

/-- One more member is a first occurrence where it is new. -/
theorem eraseDups_concat (members : List α) (member : α) :
    (members ++ [member]).eraseDups =
      if member ∈ members then members.eraseDups else members.eraseDups ++ [member] := by
  rw [List.eraseDups_append]
  by_cases isKnown : member ∈ members
  · simp [isKnown, List.removeAll]
  · simp [isKnown, List.removeAll, List.eraseDups_cons]

theorem nodup_eraseDups (members : List α) : members.eraseDups.Nodup := by
  induction members using List.reverseRecOn with
  | nil => exact List.nodup_nil
  | append_singleton members member hypothesis =>
      rw [eraseDups_concat]
      by_cases isKnown : member ∈ members
      · rw [if_pos isKnown]
        exact hypothesis
      · rw [if_neg isKnown]
        rw [List.nodup_append]
        refine ⟨hypothesis, List.nodup_singleton member, ?_⟩
        simp only [List.mem_eraseDups, List.mem_singleton, forall_eq]
        rintro other listed rfl
        exact isKnown listed

end

namespace Draw

/-- The different clauses of some draws, in the order of their first occurrence. -/
def distinct (draws : List Draw) : Formula :=
  (draws.filterMap fun draw => draw.clause.toOption).eraseDups

variable {draws : List Draw} {draw : Draw} {clause : Clause}

/-- The distinct clauses are those that were drawn. -/
theorem mem_distinct : clause ∈ distinct draws ↔ ∃ draw ∈ draws, draw.clause = .ok clause := by
  have isOk : ∀ draw : Draw, draw.clause.toOption = some clause ↔ draw.clause = .ok clause := by
    intro draw
    cases draw.clause <;> simp [Except.toOption]
  simp [distinct, List.mem_eraseDups, List.mem_filterMap, isOk]

/-- One more draw adds its clause where that is new. -/
theorem distinct_concat (drawn : draw.clause = .ok clause) :
    distinct (draws ++ [draw]) =
      if clause ∈ distinct draws then distinct draws else distinct draws ++ [clause] := by
  have isOne : [draw].filterMap (fun draw => draw.clause.toOption) = [clause] := by
    simp [drawn, Except.toOption]
  simp only [distinct, List.filterMap_append, isOne, eraseDups_concat, List.mem_eraseDups]

theorem nodup_distinct (draws : List Draw) : (distinct draws).Nodup := nodup_eraseDups _

/-- Further draws only add clauses. -/
theorem length_distinct_append (used left : List Draw) :
    (distinct used).length ≤ (distinct (used ++ left)).length := by
  simp [distinct, List.eraseDups_append]

/-- Samples have clauses of their size only. -/
theorem isRandom_of_mem_distinct {size total : Nat}
    (samples : ∀ draw ∈ draws, draw.IsSample size total) (isOne : clause ∈ distinct draws) :
    clause.IsRandom size total := by
  rcases mem_distinct.1 isOne with ⟨draw, listed, drawn⟩
  rcases (samples draw listed).exists_clause with ⟨other, isOther, random⟩
  obtain rfl : other = clause := Except.ok.inj (isOther.symm.trans drawn)
  exact random

/-- As long as there are fewer clauses than there can be, some sample has a new one. -/
theorem exists_new {size total : Nat} (few : (distinct draws).length < clauseCount size total) :
    ∃ (draw : Draw) (clause : Clause), draw.IsSample size total ∧ draw.clause = .ok clause ∧
      clause ∉ distinct draws := by
  by_contra none
  have all : Clause.listed total size ⊆ distinct draws := by
    intro clause listed
    rcases (Clause.mem_listed.1 listed).exists_draw with ⟨draw, sample, drawn⟩
    by_contra isNew
    exact none ⟨draw, clause, sample, drawn, isNew⟩
  have bound := ((Clause.nodup_listed total size).subperm all).length_le
  rw [Clause.length_listed, ← clauseCount_eq] at bound
  omega

end Draw

namespace Cnf

/-- The draws are used up to the one that completes the formula.  Where they do not suffice, all of them are
used. -/
structure Collects (missing : Nat) (before draws used left : List Draw) : Prop where
  split : draws = used ++ left
  complete : (Draw.distinct (before ++ used)).length = (Draw.distinct before).length + missing
  first : ∀ front, front <+: used → front ≠ used →
    (Draw.distinct (before ++ front)).length < (Draw.distinct before).length + missing

/-- A draw that is made goes before those that are used later. -/
theorem Collects.cons {missing rest : Nat} {before draws used left : List Draw} {draw : Draw}
    (collects : Collects rest (before ++ [draw]) draws used left) (isMissing : 0 < missing)
    (counted : (Draw.distinct (before ++ [draw])).length + rest =
      (Draw.distinct before).length + missing) :
    Collects missing before (draw :: draws) (draw :: used) left := by
  have moved : ∀ others, before ++ draw :: others = before ++ [draw] ++ others := by simp
  refine ⟨by simp [collects.split], ?_, fun front isFront differs => ?_⟩
  · rw [moved, collects.complete, counted]
  · cases front with
    | nil =>
        rw [List.append_nil]
        omega
    | cons first front =>
        rcases List.cons_prefix_cons.1 isFront with ⟨rfl, isRest⟩
        rw [moved, ← counted]
        exact collects.first front isRest fun same => differs (by rw [same])

/-- From a formula in the making the draws go on until it is complete, or until none is left. -/
theorem collect_cases {missing : Nat} {found : Found} {before draws : List Draw}
    (isFound : found.clauses.reverse = Draw.distinct before)
    (areClauses : ∀ draw ∈ draws, ∃ clause, draw.clause = .ok clause) :
    (∃ used left, Collects missing before draws used left ∧
        collect missing found draws = .ok (Draw.distinct (before ++ used), left)) ∨
      ((Draw.distinct (before ++ draws)).length < (Draw.distinct before).length + missing ∧
        collect missing found draws = .error .drawsExhausted) := by
  induction draws generalizing missing found before with
  | nil =>
      by_cases isComplete : missing = 0
      · refine .inl ⟨[], [], ⟨rfl, by simp [isComplete], ?_⟩, ?_⟩
        · exact fun front isFront differs => absurd (List.prefix_nil.1 isFront) differs
        · simp [collect, isComplete, isFound]
      · exact .inr ⟨by simp; omega, by simp [collect, isComplete]⟩
  | cons draw draws hypothesis =>
      by_cases isComplete : missing = 0
      · refine .inl ⟨[], draw :: draws, ⟨rfl, by simp [isComplete], ?_⟩, ?_⟩
        · exact fun front isFront differs => absurd (List.prefix_nil.1 isFront) differs
        · simp [collect, isComplete, isFound]
      · rcases areClauses draw List.mem_cons_self with ⟨clause, drawn⟩
        have later := fun other inside => areClauses other (List.mem_cons_of_mem _ inside)
        have added : Draw.distinct (before ++ [draw]) = if clause ∈ Draw.distinct before then
            Draw.distinct before else Draw.distinct before ++ [clause] := Draw.distinct_concat drawn
        have isIn : clause ∈ found.known ↔ clause ∈ Draw.distinct before := by
          rw [found.mem_known, ← isFound, List.mem_reverse]
        have moved : before ++ draw :: draws = before ++ [draw] ++ draws := by simp
        by_cases isKnown : clause ∈ found.known
        · rw [if_pos (isIn.1 isKnown)] at added
          have step : collect missing found (draw :: draws) = collect missing found draws := by
            simp [collect, isComplete, drawn, isKnown]
          rw [step, moved]
          rcases @hypothesis missing found _ (isFound.trans added.symm) later with
            ⟨used, left, collects, result⟩ | ⟨few, result⟩
          · refine .inl ⟨draw :: used, left, collects.cons (by omega) (by rw [added]), ?_⟩
            simpa using result
          · exact .inr ⟨by rwa [added] at few, result⟩
        · rw [if_neg (isIn.not.1 isKnown)] at added
          have step : collect missing found (draw :: draws) =
              collect (missing - 1) (found.add clause isKnown) draws := by
            simp [collect, isComplete, drawn, isKnown]
          have isFoundNext : (found.add clause isKnown).clauses.reverse =
              Draw.distinct (before ++ [draw]) := by
            rw [added, ← isFound]
            exact List.reverse_cons
          have counted : (Draw.distinct (before ++ [draw])).length + (missing - 1) =
              (Draw.distinct before).length + missing := by
            rw [added, List.length_append, List.length_singleton]
            omega
          rw [step, moved]
          rcases @hypothesis (missing - 1) _ _ isFoundNext later with
            ⟨used, left, collects, result⟩ | ⟨few, result⟩
          · refine .inl ⟨draw :: used, left, collects.cons (by omega) counted, ?_⟩
            simpa using result
          · exact .inr ⟨by rwa [counted] at few, result⟩

/-! ## Random formulas as a whole -/

/-- What is made of draws with given parameters. -/
structure Drawing (parameters : Parameters) (draws : List Draw) : Prop where
  /-- As long as clauses are missing, some possible draw has a new one. -/
  progress : (Draw.distinct draws).length < parameters.count →
    ∃ (draw : Draw) (clause : Clause),
      draw.IsSample parameters.size.value.toNat parameters.numVars.value ∧
        draw.clause = .ok clause ∧ clause ∉ Draw.distinct draws
  /-- As long as clauses are missing, another draw is asked for. -/
  unfinished : (Draw.distinct draws).length < parameters.count →
    random parameters draws = .error .drawsExhausted
  /-- The first draw that completes the formula is the last one that is made.  The formula has as many
  different clauses of the size as were asked for, in the order of their first occurrence. -/
  finished : parameters.count ≤ (Draw.distinct draws).length →
    ∃ used left, draws = used ++ left ∧ (Draw.distinct used).length = parameters.count ∧
      (∀ front, front <+: used → front ≠ used →
        (Draw.distinct front).length < parameters.count) ∧
      (Draw.distinct used).Nodup ∧
      (∀ clause ∈ Draw.distinct used,
        clause.IsRandom parameters.size.value.toNat parameters.numVars.value) ∧
      random parameters draws =
        .ok (⟨parameters.numVars, (Draw.distinct used).map Clause.written⟩, left)

/-- From good parameters and samples, clauses are drawn until there are enough different ones, and the rest
is left. -/
theorem drawing {parameters : Parameters} {draws : List Draw}
    (enough : parameters.count ≤
      clauseCount parameters.size.value.toNat parameters.numVars.value)
    (samples : ∀ draw ∈ draws,
      draw.IsSample parameters.size.value.toNat parameters.numVars.value) :
    Drawing parameters draws := by
  have areClauses : ∀ draw ∈ draws, ∃ clause, draw.clause = .ok clause := by
    intro draw listed
    rcases (samples draw listed).exists_clause with ⟨clause, drawn, -⟩
    exact ⟨clause, drawn⟩
  have start : (Draw.distinct []).length = 0 := rfl
  have cases := @collect_cases parameters.count {} [] draws rfl areClauses
  rw [start, Nat.zero_add] at cases
  constructor
  · intro few
    exact Draw.exists_new (Nat.lt_of_lt_of_le few enough)
  · intro few
    rcases cases with ⟨used, left, ⟨rfl, complete, -⟩, -⟩ | ⟨-, result⟩
    · have grows := Draw.length_distinct_append used left
      rw [start, Nat.zero_add] at complete
      exact absurd few (Nat.not_lt_of_le (complete ▸ grows))
    · rw [random, result]
      rfl
  · intro many
    rcases cases with ⟨used, left, ⟨rfl, complete, first⟩, result⟩ | ⟨few, -⟩
    · rw [start, Nat.zero_add] at complete first
      refine ⟨used, left, rfl, complete, first, Draw.nodup_distinct used, fun clause isOne => ?_, ?_⟩
      · exact Draw.isRandom_of_mem_distinct
          (fun draw listed => samples draw (List.mem_append_left _ listed)) isOne
      · rw [random, result]
        rfl
    · exact absurd few (Nat.not_lt_of_le many)

/-- Random formulas of so many clauses of one size over so many variables. -/
structure RandomFormulas (size numVars count : Whole) : Prop where
  /-- They are refused as wrong values exactly when a number is too small or too many clauses are asked
  for. -/
  refused_iff : (∃ fault, Parameters.ofData (.ofWhole size) (.ofWhole numVars) (.ofWhole count) =
      .error fault ∧ fault.category = .value) ↔
    Parameters.Refused size.value numVars.value count.value
  /-- There is one other fault: the clauses are too many to be counted. -/
  uncountable_iff : Parameters.ofData (.ofWhole size) (.ofWhole numVars) (.ofWhole count) =
      .error .hugeChoice ↔
    Parameters.Uncountable size.value numVars.value count.value
  /-- Otherwise they are drawn. -/
  accepted : ¬ Parameters.Refused size.value numVars.value count.value →
    ¬ Parameters.Uncountable size.value numVars.value count.value →
      ∃ parameters, Parameters.ofData (.ofWhole size) (.ofWhole numVars) (.ofWhole count) =
          .ok parameters ∧
        parameters.size = size ∧ parameters.numVars.toWhole = numVars ∧
        parameters.count = count.value ∧
        ∀ draws : List Draw,
          (∀ draw ∈ draws, draw.IsSample size.value.toNat numVars.value.toNat) →
            Drawing parameters draws

/-- Every request for a random formula is refused or fulfilled, whatever is drawn. -/
theorem random_formulas (size numVars count : Whole) : RandomFormulas size numVars count := by
  rcases Parameters.ofData_cases size numVars count with
    ⟨refused, fault, failed, isValue⟩ | ⟨uncountable, failed⟩ |
      ⟨allowed, countable, total, rfl, made⟩
  · refine ⟨⟨fun _ => refused, fun _ => ⟨fault, failed, isValue⟩⟩, ⟨?_, fun uncountable => ?_⟩, ?_⟩
    · rw [failed]
      intro same
      rw [Except.error.inj same] at isValue
      cases isValue
    · exact absurd uncountable refused.countable
    · exact fun allowed => absurd refused allowed
  · refine ⟨⟨?_, fun refused => absurd uncountable refused.countable⟩,
      ⟨fun _ => uncountable, fun _ => failed⟩, fun _ countable => absurd uncountable countable⟩
    rw [failed]
    rintro ⟨fault, same, isValue⟩
    rw [← Except.error.inj same] at isValue
    cases isValue
  · constructor
    · rw [made]
      refine ⟨?_, fun refused => absurd refused allowed⟩
      rintro ⟨fault, impossible, -⟩
      cases impossible
    · rw [made]
      refine ⟨?_, fun uncountable => absurd uncountable countable⟩
      intro impossible
      cases impossible
    · intro _ _
      unfold Parameters.Refused at allowed
      unfold Parameters.Uncountable at countable
      rw [Count.value_toWhole, Clause.ncard_isRandom, Int.toNat_natCast] at allowed
      rw [Count.value_toWhole] at countable
      refine ⟨_, made, rfl, rfl, ?_, fun draws samples => ?_⟩
      · change ((count.value.toNat : Nat) : Int) = count.value
        omega
      · rw [Count.value_toWhole, Int.toNat_natCast] at samples
        apply drawing _ samples
        change count.value.toNat ≤ clauseCount size.value.toNat total.value
        omega

/-- With two clauses of one literal to be found, a draw that repeats the first one is passed over, and the
third one completes the formula. -/
theorem random_formulas_repeated :
    ∃ parameters, Parameters.ofData (.ofWhole 1) (.ofWhole 1) (.ofWhole 2) = .ok parameters ∧
      ∃ cnf left, random parameters [⟨[.int 0], [.int 1]⟩, ⟨[.int 0], [.int 1]⟩,
          ⟨[.int 0], [.int 0]⟩, ⟨[.int 0], [.int 0]⟩] = .ok (cnf, left) ∧ cnf.clauses.length = 2 := by
  have allowed : ¬ Parameters.Refused 1 1 2 := by
    unfold Parameters.Refused
    rw [Clause.ncard_isRandom]
    decide
  have countable : ¬ Parameters.Uncountable 1 1 2 := by
    unfold Parameters.Uncountable
    decide
  have sample : ∀ flip : Bool, Draw.IsSample 1 1 ⟨[.int 0], [.int flip.toInt]⟩ := fun flip =>
    ⟨⟨[0], rfl, rfl, by decide, by decide⟩, ⟨[flip], rfl, rfl⟩⟩
  have negative : Draw.clause ⟨[.int 0], [.int 1]⟩ = .ok [-1] := by
    rw [@Draw.clause_eq ⟨[.int 0], [.int 1]⟩ [0] [true] rfl rfl]
    simp [Draw.signed]
  have positive : Draw.clause ⟨[.int 0], [.int 0]⟩ = .ok [1] := by
    rw [@Draw.clause_eq ⟨[.int 0], [.int 0]⟩ [0] [false] rfl rfl]
    simp [Draw.signed]
  have areDistinct : Draw.distinct [⟨[.int 0], [.int 1]⟩, ⟨[.int 0], [.int 1]⟩,
      ⟨[.int 0], [.int 0]⟩, ⟨[.int 0], [.int 0]⟩] = [[-1], [1]] := by
    simp only [Draw.distinct, List.filterMap, negative, positive, Except.toOption]
    rfl
  rcases (random_formulas 1 1 2).accepted allowed countable with
    ⟨parameters, made, -, -, isCount, run⟩
  have drawing := run [⟨[.int 0], [.int 1]⟩, ⟨[.int 0], [.int 1]⟩,
      ⟨[.int 0], [.int 0]⟩, ⟨[.int 0], [.int 0]⟩] (by
    simp only [List.mem_cons, List.not_mem_nil, or_false]
    rintro draw (rfl | rfl | rfl | rfl)
    · exact sample true
    · exact sample true
    · exact sample false
    · exact sample false)
  have two : parameters.count = 2 := Int.ofNat.inj isCount
  rcases drawing.finished (by rw [two, areDistinct]; decide) with
    ⟨used, left, -, counted, -, -, -, drawn⟩
  refine ⟨parameters, made, _, left, drawn, ?_⟩
  rw [List.length_map, counted, two]

/-- Where half of so many variables are chosen, the choices cannot be counted.  So one clause is refused
although there are many, and more clauses than there are, are not refused as a wrong value. -/
theorem hugeChoice_of_half :
    (Parameters.ofData (.ofWhole (.number 0x8000000000000000))
        (.ofWhole (.number 0x10000000000000000)) (.ofWhole (.number 1)) = .error .hugeChoice ∧
      ¬ ((0x8000000000000000 : Int) ≤ 0 ∨ (0x10000000000000000 : Int) < 0x8000000000000000 ∨
        (1 : Int) ≤ 0 ∨ Set.ncard {clause : Clause |
          clause.IsRandom 0x8000000000000000 0x10000000000000000} < 1)) ∧
    ∃ count : Nat, Set.ncard {clause : Clause |
        clause.IsRandom 0x8000000000000000 0x10000000000000000} < count ∧
      Parameters.ofData (.ofWhole (.number 0x8000000000000000))
        (.ofWhole (.number 0x10000000000000000)) (.ofWhole (.number count)) = .error .hugeChoice ∧
      Fault.hugeChoice.category ≠ .value := by
  have positive : 0 < Set.ncard {clause : Clause |
      clause.IsRandom 0x8000000000000000 0x10000000000000000} := Clause.ncard_pos (by decide)
  have huge : wordLimit ≤ Nat.min (0x8000000000000000 : Int).toNat
      (0x10000000000000000 - (0x8000000000000000 : Int).toNat) := by decide
  have failed : ∀ count : Nat, 0 < count →
      Parameters.ofData (.ofWhole (.number 0x8000000000000000))
        (.ofWhole (.number 0x10000000000000000)) (.ofWhole (.number count)) = .error .hugeChoice := by
    intro count asked
    have evaluated := @Parameters.ofData_of_positive (.number 0x8000000000000000) (.number count)
      (.number 0x10000000000000000) (by decide) (by decide)
      (by rw [Whole.value_number]; omega)
    exact evaluated.trans (if_pos huge)
  refine ⟨⟨failed 1 (by decide), by omega⟩, _, Nat.lt_succ_self _, failed _ (Nat.succ_pos _), by decide⟩

end Cnf

end TensorLogic
