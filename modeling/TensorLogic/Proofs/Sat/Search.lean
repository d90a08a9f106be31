/-
Module: TensorLogic.Proofs.Sat.Search
Purpose: The plain search finds a model of every satisfiable formula, and the least one.
Main exports: Sat.eval_assign, Sat.Propagates, Sat.Finds, Sat.confirmed_search,
  Sat.eval_of_leastModel?, Sat.isLeast_of_leastModel?, Sat.eval_eq_false_of_leastModel?
-/
import Mathlib.Data.List.Nodup
import TensorLogic.Proofs.Cnf.Extension
import TensorLogic.Sat.Least
import TensorLogic.Sat.Search

namespace TensorLogic.Sat

/-- A variable occurs in a formula, as itself or negated. -/
def Mentions (formula : Formula) (number : Nat) : Prop :=
  ∃ clause ∈ formula, ∃ literal ∈ clause, literal.natAbs = number

/-- No literal is zero. -/
def Proper (formula : Formula) : Prop := ∀ clause ∈ formula, (0 : Int) ∉ clause

theorem proper_of_isOver {numVars : Nat} {formula : Formula} (isOver : formula.IsOver numVars) :
    Proper formula :=
  fun clause inside member => (isOver clause inside 0 member).1 rfl

theorem Mentions.pos {formula : Formula} {number : Nat} (proper : Proper formula)
    (mentions : Mentions formula number) : 0 < number := by
  obtain ⟨clause, inside, literal, member, rfl⟩ := mentions
  apply Int.natAbs_pos.2
  rintro rfl
  exact proper clause inside member

/-- All literals are true. -/
def AllHold (assignment : Assignment) (literals : List Int) : Prop :=
  ∀ literal ∈ literals, assignment.holds literal = true

theorem allHold_append {assignment : Assignment} {first second : List Int} :
    AllHold assignment (first ++ second) ↔
      AllHold assignment first ∧ AllHold assignment second := by
  simp only [AllHold, List.mem_append, or_imp, forall_and]

theorem allHold_cons {assignment : Assignment} {literal : Int} {literals : List Int} :
    AllHold assignment (literal :: literals) ↔
      assignment.holds literal = true ∧ AllHold assignment literals := by
  simp only [AllHold, List.mem_cons, forall_eq_or_imp]

/-! ## Simplifying by a literal -/

/-- What is left of a formula are the clauses without the literal, without its negation in them. -/
theorem mem_assign {literal : Int} {formula : Formula} {clause : Clause} :
    clause ∈ assign literal formula ↔
      ∃ original ∈ formula, literal ∉ original ∧ clause = original.filter (· != -literal) := by
  simp only [assign, List.mem_map, List.mem_filter]
  constructor
  · rintro ⟨original, ⟨member, absent⟩, rfl⟩
    exact ⟨original, member, by simpa using absent, rfl⟩
  · rintro ⟨original, member, absent, rfl⟩
    exact ⟨original, ⟨member, by simpa using absent⟩, rfl⟩

/-- A literal that was assigned is no longer mentioned. -/
theorem mentions_assign {literal : Int} {formula : Formula} {number : Nat}
    (mentions : Mentions (assign literal formula) number) :
    Mentions formula number ∧ number ≠ literal.natAbs := by
  obtain ⟨clause, inside, other, member, rfl⟩ := mentions
  obtain ⟨original, isOriginal, absent, rfl⟩ := mem_assign.1 inside
  obtain ⟨isMember, differs⟩ := List.mem_filter.1 member
  refine ⟨⟨original, isOriginal, other, isMember, rfl⟩, fun same => ?_⟩
  rcases Int.natAbs_eq_natAbs_iff.1 same with isLiteral | isNegation
  · exact absent (isLiteral ▸ isMember)
  · simp [isNegation] at differs

/-- Assigning a literal brings no number zero into a formula. -/
theorem Proper.assign {formula : Formula} (proper : Proper formula) (literal : Int) :
    Proper (assign literal formula) := by
  intro clause inside member
  obtain ⟨original, isOriginal, _, rfl⟩ := mem_assign.1 inside
  exact proper original isOriginal (List.mem_filter.1 member).1

/-- Where a literal is true, simplifying by it changes nothing. -/
theorem eval_assign {assignment : Assignment} {literal : Int} (nonzero : literal ≠ 0)
    (holds : assignment.holds literal = true) (formula : Formula) :
    (assign literal formula).eval assignment = formula.eval assignment := by
  have isFalse : assignment.holds (-literal) = false := by
    rw [assignment.holds_neg nonzero, holds, Bool.not_true]
  rw [Bool.eq_iff_iff]
  simp only [Formula.eval, Clause.eval, List.all_eq_true, List.any_eq_true]
  constructor
  · intro satisfied clause inside
    by_cases present : literal ∈ clause
    · exact ⟨literal, present, holds⟩
    · obtain ⟨other, member, isTrue⟩ := satisfied _ (mem_assign.2 ⟨clause, inside, present, rfl⟩)
      exact ⟨other, (List.mem_filter.1 member).1, isTrue⟩
  · intro satisfied clause inside
    obtain ⟨original, isOriginal, _, rfl⟩ := mem_assign.1 inside
    obtain ⟨other, member, isTrue⟩ := satisfied original isOriginal
    refine ⟨other, List.mem_filter.2 ⟨member, ?_⟩, isTrue⟩
    rw [bne_iff_ne]
    rintro rfl
    rw [isFalse] at isTrue
    cases isTrue

/-- If simplifying by a literal leaves no model, then the literal is false in every model. -/
theorem holds_eq_false_of_assign {assignment : Assignment} {literal : Int} {formula : Formula}
    (nonzero : literal ≠ 0)
    (noModel : ∀ other : Assignment, (assign literal formula).eval other = false)
    (holds : formula.eval assignment = true) : assignment.holds literal = false := by
  cases isTrue : assignment.holds literal with
  | false => rfl
  | true =>
      have contradiction := noModel assignment
      rw [eval_assign nonzero isTrue, holds] at contradiction
      cases contradiction

/-! ## Propagation -/

theorem eval_of_empty {assignment : Assignment} {formula : Formula} (empty : [] ∈ formula) :
    formula.eval assignment = false := by
  rw [Bool.eq_false_iff]
  intro holds
  have satisfied := List.all_eq_true.1 holds [] empty
  simp [Clause.eval] at satisfied

/-- A clause of one literal holds only where this does. -/
theorem holds_of_unit {assignment : Assignment} {formula : Formula} {literal : Int}
    (unit : [literal] ∈ formula) (holds : formula.eval assignment = true) :
    assignment.holds literal = true := by
  have satisfied := List.all_eq_true.1 holds [literal] unit
  simpa [Clause.eval] using satisfied

/-- What propagation forces, and what it leaves: the models of the formula are those in which the forced
literals are true and the rest holds. -/
structure Propagates (formula : Formula) (forced : List Int) (rest : Formula) : Prop where
  eval_iff : ∀ assignment : Assignment, formula.eval assignment = true ↔
    AllHold assignment forced ∧ rest.eval assignment = true
  nonempty : [] ∉ rest
  distinct : (forced.map Int.natAbs).Nodup
  mentions_forced : ∀ literal ∈ forced, Mentions formula literal.natAbs
  mentions_rest : ∀ number, Mentions rest number →
    Mentions formula number ∧ number ∉ forced.map Int.natAbs
  proper : Proper rest

/-- Propagation forces only literals that every model has.  The induction follows the unit clauses, each of
which lowers the weight. -/
theorem propagates_of_propagate {formula rest : Formula} {forced : List Int} (proper : Proper formula)
    (propagated : propagate formula = some (forced, rest)) : Propagates formula forced rest := by
  induction formula using propagate.induct generalizing forced rest with
  | case1 formula empty =>
      rw [propagate, if_pos empty] at propagated
      cases propagated
  | case2 formula nonempty found =>
      rw [propagate, if_neg nonempty] at propagated
      split at propagated
      · cases propagated
        refine ⟨fun assignment => ?_, ?_, .nil, fun _ member => (nomatch member),
          fun number mentions => ⟨mentions, List.not_mem_nil⟩, proper⟩
        · simp [AllHold]
        · simpa using nonempty
      · simp_all
  | case3 formula nonempty literal found hypothesis =>
      rw [propagate, if_neg nonempty] at propagated
      split at propagated
      · simp_all
      · rename_i other same
        obtain rfl : literal = other := Option.some.inj (found.symm.trans same)
        obtain ⟨⟨tail, last⟩, inner, outer⟩ := Option.map_eq_some_iff.1 propagated
        cases outer
        have unit : [literal] ∈ formula := singleton_mem_of_unit? found
        have nonzero : literal ≠ 0 := by
          rintro rfl
          exact proper [0] unit List.mem_cons_self
        have spread := hypothesis (proper.assign literal) inner
        refine ⟨fun assignment => ?_, spread.nonempty, ?_, ?_, ?_, spread.proper⟩
        · rw [allHold_cons, and_assoc, ← spread.eval_iff]
          constructor
          · intro holds
            have isTrue := holds_of_unit unit holds
            exact ⟨isTrue, (eval_assign nonzero isTrue formula).trans holds⟩
          · rintro ⟨isTrue, holds⟩
            exact (eval_assign nonzero isTrue formula).symm.trans holds
        · rw [List.map_cons, List.nodup_cons]
          refine ⟨fun inside => ?_, spread.distinct⟩
          obtain ⟨other, member, sameVariable⟩ := List.mem_map.1 inside
          exact (mentions_assign (spread.mentions_forced other member)).2 sameVariable
        · intro other member
          rcases List.mem_cons.1 member with rfl | inside
          · exact ⟨[other], unit, other, List.mem_cons_self, rfl⟩
          · exact (mentions_assign (spread.mentions_forced other inside)).1
        · intro number mentions
          obtain ⟨isMentioned, absent⟩ := spread.mentions_rest number mentions
          obtain ⟨inFormula, differs⟩ := mentions_assign isMentioned
          refine ⟨inFormula, ?_⟩
          rw [List.map_cons, List.mem_cons]
          rintro (same | inside)
          · exact differs same
          · exact absent inside

/-- Where propagation comes upon an empty clause, the formula has no model. -/
theorem eval_of_propagate_none {formula : Formula} (proper : Proper formula)
    (failed : propagate formula = none) (assignment : Assignment) :
    formula.eval assignment = false := by
  induction formula using propagate.induct with
  | case1 formula empty =>
      exact eval_of_empty (by simpa using empty)
  | case2 formula nonempty found =>
      rw [propagate, if_neg nonempty] at failed
      split at failed
      · cases failed
      · simp_all
  | case3 formula nonempty literal found hypothesis =>
      rw [propagate, if_neg nonempty] at failed
      split at failed
      · simp_all
      · rename_i other same
        obtain rfl : literal = other := Option.some.inj (found.symm.trans same)
        have inner := hypothesis (proper.assign literal) (Option.map_eq_none_iff.1 failed)
        have unit : [literal] ∈ formula := singleton_mem_of_unit? found
        have nonzero : literal ≠ 0 := by
          rintro rfl
          exact proper [0] unit List.mem_cons_self
        rw [Bool.eq_false_iff]
        intro holds
        rw [eval_assign nonzero (holds_of_unit unit holds), holds] at inner
        cases inner

/-! ## The search -/

/-- What a search finds: literals of different variables of the formula that make it true, such that
every model either makes them true as well or has another value than a preferred one of them where it
first differs. -/
structure Finds (preferred : Bool) (formula : Formula) (literals : List Int) : Prop where
  distinct : (literals.map Int.natAbs).Nodup
  mentions : ∀ literal ∈ literals, Mentions formula literal.natAbs
  holds : ∀ assignment : Assignment, AllHold assignment literals → formula.eval assignment = true
  least : ∀ assignment : Assignment, formula.eval assignment = true → AllHold assignment literals ∨
    ∃ literal ∈ literals, (0 < literal ↔ preferred = true) ∧ assignment.holds literal = false ∧
      ∀ other ∈ literals, other.natAbs < literal.natAbs → assignment.holds other = true

/-- The literal that gives a variable a value. -/
def literalOf (number : Nat) (value : Bool) : Int := if value then number else -number

theorem natAbs_literalOf (number : Nat) (value : Bool) : (literalOf number value).natAbs = number := by
  cases value <;> simp [literalOf]

theorem literalOf_not (number : Nat) (value : Bool) :
    literalOf number (!value) = -literalOf number value := by
  cases value <;> simp [literalOf]

theorem literalOf_pos_iff {number : Nat} (positive : 0 < number) (value : Bool) :
    0 < literalOf number value ↔ value = true := by
  cases value <;> simp [literalOf, positive]

theorem literalOf_ne_zero {number : Nat} (positive : 0 < number) (value : Bool) :
    literalOf number value ≠ 0 := by
  apply Int.natAbs_pos.1
  rw [natAbs_literalOf]
  exact positive

theorem leastVariable?_le {formula : Formula} {least number : Nat}
    (found : leastVariable? formula = some least) (mentions : Mentions formula number) :
    least ≤ number := by
  obtain ⟨clause, inside, literal, member, rfl⟩ := mentions
  apply (List.min?_eq_some_iff.1 found).2
  exact List.mem_map_of_mem (List.mem_flatten_of_mem inside member)

theorem mentions_leastVariable? {formula : Formula} {least : Nat}
    (found : leastVariable? formula = some least) : Mentions formula least := by
  obtain ⟨clause, inside, occurs⟩ := exists_of_leastVariable? found
  rcases occurs with member | member
  · exact ⟨clause, inside, _, member, Int.natAbs_natCast least⟩
  · exact ⟨clause, inside, _, member, by simp⟩

/-- A formula that has no variable and no empty clause is true. -/
theorem eval_of_no_variable {formula : Formula} (nonempty : [] ∉ formula)
    (none : leastVariable? formula = none) (assignment : Assignment) :
    formula.eval assignment = true := by
  have noLiterals : formula.flatten = [] := by
    simpa [leastVariable?] using none
  apply List.all_eq_true.2
  intro clause inside
  have empty : clause = [] := List.flatten_eq_nil_iff.1 noLiterals clause inside
  exact absurd (empty ▸ inside) nonempty

/-- A decision after a propagation, and what was found behind it.  The variable that is decided is the
least one that is left. -/
theorem Finds.of_decision {preferred value : Bool} {formula rest : Formula} {forced literals : List Int}
    {least : Nat} (propagates : Propagates formula forced rest)
    (found : leastVariable? rest = some least)
    (finds : Finds preferred (assign (literalOf least value) rest) literals)
    (decided : ∀ assignment : Assignment, rest.eval assignment = true →
      value = preferred ∨ assignment.holds (literalOf least value) = true) :
    Finds preferred formula (forced ++ literalOf least value :: literals) := by
  have isMentioned := mentions_leastVariable? found
  have positive : 0 < least := isMentioned.pos propagates.proper
  have nonzero := literalOf_ne_zero positive value
  have later : ∀ literal ∈ literals,
      Mentions rest literal.natAbs ∧ literal.natAbs ≠ least := by
    intro literal member
    have mentions := mentions_assign (finds.mentions literal member)
    rw [natAbs_literalOf] at mentions
    exact mentions
  constructor
  · rw [List.map_append, List.map_cons, natAbs_literalOf, List.nodup_append, List.nodup_cons]
    refine ⟨propagates.distinct, ⟨fun inside => ?_, finds.distinct⟩, ?_⟩
    · obtain ⟨literal, member, same⟩ := List.mem_map.1 inside
      exact (later literal member).2 same
    · intro number inForced other inRest same
      subst same
      rcases List.mem_cons.1 inRest with rfl | inside
      · exact (propagates.mentions_rest _ isMentioned).2 inForced
      · obtain ⟨literal, member, rfl⟩ := List.mem_map.1 inside
        exact (propagates.mentions_rest _ (later literal member).1).2 inForced
  · intro literal member
    rcases List.mem_append.1 member with inForced | inRest
    · exact propagates.mentions_forced literal inForced
    · rcases List.mem_cons.1 inRest with rfl | inside
      · rw [natAbs_literalOf]
        exact (propagates.mentions_rest _ isMentioned).1
      · exact (propagates.mentions_rest _ (later literal inside).1).1
  · intro assignment all
    obtain ⟨allForced, allRest⟩ := allHold_append.1 all
    obtain ⟨isTrue, allLater⟩ := allHold_cons.1 allRest
    apply (propagates.eval_iff assignment).2
    refine ⟨allForced, ?_⟩
    rw [← eval_assign nonzero isTrue]
    exact finds.holds assignment allLater
  · intro assignment holds
    obtain ⟨allForced, holdsRest⟩ := (propagates.eval_iff assignment).1 holds
    cases isTrue : assignment.holds (literalOf least value) with
    | true =>
        have holdsLater : (assign (literalOf least value) rest).eval assignment = true := by
          rw [eval_assign nonzero isTrue]
          exact holdsRest
        rcases finds.least assignment holdsLater with
          all | ⟨literal, member, isPreferred, isFalse, smaller⟩
        · exact Or.inl (allHold_append.2 ⟨allForced, allHold_cons.2 ⟨isTrue, all⟩⟩)
        · refine Or.inr ⟨literal, List.mem_append_right _ (List.mem_cons_of_mem _ member),
            isPreferred, isFalse, fun other inside less => ?_⟩
          rcases List.mem_append.1 inside with inForced | inRest
          · exact allForced other inForced
          · rcases List.mem_cons.1 inRest with rfl | isLater
            · exact isTrue
            · exact smaller other isLater less
    | false =>
        have isPreferred : value = preferred := by
          rcases decided assignment holdsRest with same | holdsValue
          · exact same
          · rw [isTrue] at holdsValue
            cases holdsValue
        refine Or.inr ⟨literalOf least value, List.mem_append_right _ List.mem_cons_self, ?_, isTrue,
          fun other inside less => ?_⟩
        · rw [literalOf_pos_iff positive, isPreferred]
        · rw [natAbs_literalOf] at less
          rcases List.mem_append.1 inside with inForced | inRest
          · exact allForced other inForced
          · rcases List.mem_cons.1 inRest with rfl | isLater
            · rw [natAbs_literalOf] at less
              exact absurd less (Nat.lt_irrefl _)
            · have atLeast := leastVariable?_le found (later other isLater).1
              exact absurd less (Nat.not_lt.2 atLeast)

/-- The search propagates, decides the least variable that is left, and turns back once. -/
theorem search_eq (preferred : Bool) (formula : Formula) :
    search preferred formula =
      match propagate formula with
      | none => none
      | some (forced, rest) =>
          match leastVariable? rest with
          | none => some forced
          | some least =>
              match search preferred (assign (literalOf least preferred) rest) with
              | some literals => some (forced ++ literalOf least preferred :: literals)
              | none =>
                  (search preferred (assign (literalOf least (!preferred)) rest)).map
                    fun literals => forced ++ literalOf least (!preferred) :: literals := by
  rw [search]
  split
  · rename_i failed
    rw [failed]
  · rename_i propagated
    rw [propagated]
    simp only [literalOf_not]
    split
    · rename_i found
      rw [found]
    · rename_i found
      rw [found]
      rfl

/-- A decision leaves less to search through, whichever value is tried. -/
theorem weight_decided {formula rest : Formula} {forced : List Int} {least : Nat}
    (propagated : propagate formula = some (forced, rest))
    (found : leastVariable? rest = some least) (value : Bool) :
    weight (assign (literalOf least value) rest) < weight formula := by
  obtain ⟨clause, member, occurs⟩ := exists_of_leastVariable? found
  apply Nat.lt_of_lt_of_le (weight_assign_lt member ?_) (weight_le_of_propagate propagated)
  cases value <;> simp [literalOf, or_comm, occurs]

/-- What a search comes to is right: a model if it finds literals, and none at all otherwise. -/
def Confirmed (preferred : Bool) (formula : Formula) : Option (List Int) → Prop
  | none => ∀ assignment : Assignment, formula.eval assignment = false
  | some literals => Finds preferred formula literals

/-- The search is right about every proper formula, by induction on its weight: what it finds are the
literals of a model, and where it finds nothing there is none. -/
theorem confirmed_search (preferred : Bool) (formula : Formula) (proper : Proper formula) :
    Confirmed preferred formula (search preferred formula) := by
  rw [search_eq]
  cases propagated : propagate formula with
  | none => exact eval_of_propagate_none proper propagated
  | some result =>
      obtain ⟨forced, rest⟩ := result
      have propagates := propagates_of_propagate proper propagated
      dsimp only
      cases found : leastVariable? rest with
      | none =>
          refine ⟨propagates.distinct, propagates.mentions_forced, fun assignment all => ?_,
            fun assignment holds => Or.inl ((propagates.eval_iff assignment).1 holds).1⟩
          have holdsRest := eval_of_no_variable propagates.nonempty found assignment
          exact (propagates.eval_iff assignment).2 ⟨all, holdsRest⟩
      | some least =>
          have positive : 0 < least := (mentions_leastVariable? found).pos propagates.proper
          have shorter := weight_decided propagated found
          have first := confirmed_search preferred _
            (propagates.proper.assign (literalOf least preferred))
          dsimp only
          cases searched : search preferred (assign (literalOf least preferred) rest) with
          | some literals =>
              rw [searched] at first
              exact first.of_decision propagates found fun _ _ => Or.inl rfl
          | none =>
              rw [searched] at first
              -- No model has the preferred value, so that the other one is forced.
              have forcedOther : ∀ assignment : Assignment, rest.eval assignment = true →
                  assignment.holds (literalOf least (!preferred)) = true := by
                intro assignment holdsRest
                have nonzero := literalOf_ne_zero positive preferred
                rw [literalOf_not, assignment.holds_neg nonzero,
                  holds_eq_false_of_assign nonzero first holdsRest, Bool.not_false]
              have second := confirmed_search preferred _
                (propagates.proper.assign (literalOf least (!preferred)))
              dsimp only
              cases searchedOther : search preferred (assign (literalOf least (!preferred)) rest) with
              | some literals =>
                  rw [searchedOther] at second
                  exact second.of_decision propagates found fun assignment holdsRest =>
                    Or.inr (forcedOther assignment holdsRest)
              | none =>
                  rw [searchedOther] at second
                  intro assignment
                  rw [Bool.eq_false_iff]
                  intro holds
                  have holdsRest := ((propagates.eval_iff assignment).1 holds).2
                  have isFalse :=
                    holds_eq_false_of_assign (literalOf_ne_zero positive _) second holdsRest
                  rw [forcedOther assignment holdsRest] at isFalse
                  cases isFalse
termination_by weight formula
decreasing_by
  · exact shorter preferred
  · exact shorter !preferred

/-! ## The assignment that literals describe -/

/-- An assignment that is read off distinct literals has each of them. -/
theorem assignmentOf_of_mem {preferred : Bool} {numVars : Nat} {literals : List Int}
    (distinct : (literals.map Int.natAbs).Nodup) {literal : Int} (nonzero : literal ≠ 0)
    (member : literal ∈ literals) :
    assignmentOf preferred numVars literals literal.natAbs = decide (0 < literal) := by
  unfold assignmentOf
  rcases Int.natAbs_eq literal with positive | negative
  · have inside : literals.contains (literal.natAbs : Int) = true := by
      rw [← positive]
      simpa using member
    have isPositive : 0 < literal := by
      have magnitude := Int.natAbs_pos.2 nonzero
      omega
    rw [if_pos inside, decide_eq_true isPositive]
  · have inside : literals.contains (-(literal.natAbs : Int)) = true := by
      rw [← negative]
      simpa using member
    have absent : ¬ literals.contains (literal.natAbs : Int) = true := by
      intro other
      have isMember : (literal.natAbs : Int) ∈ literals := by simpa using other
      have same := List.inj_on_of_nodup_map distinct isMember member (Int.natAbs_natCast _)
      omega
    have notPositive : ¬ 0 < literal := by omega
    rw [if_neg absent, if_pos inside, decide_eq_false notPositive]

theorem holds_iff (assignment : Assignment) (literal : Int) :
    assignment.holds literal = true ↔ assignment literal.natAbs = decide (0 < literal) := by
  unfold Assignment.holds
  by_cases positive : 0 < literal
  · simp [positive]
  · simp [positive]

variable {preferred : Bool} {formula : Formula} {literals : List Int}

theorem Finds.ne_zero (finds : Finds preferred formula literals) (proper : Proper formula)
    {literal : Int} (member : literal ∈ literals) : literal ≠ 0 :=
  Int.natAbs_pos.1 ((finds.mentions literal member).pos proper)

/-- The assignment that is read off what was found has all of it. -/
theorem Finds.allHold_assignmentOf (finds : Finds preferred formula literals)
    (proper : Proper formula) (numVars : Nat) :
    AllHold (assignmentOf preferred numVars literals) literals := by
  intro literal member
  have nonzero := finds.ne_zero proper member
  rw [holds_iff]
  exact assignmentOf_of_mem finds.distinct nonzero member

/-- A variable that does not have the preferred value was given the other one. -/
theorem exists_of_assignmentOf_ne {numVars number : Nat} (bounded : number ≤ numVars)
    (differs : assignmentOf preferred numVars literals number ≠ preferred) :
    ∃ literal ∈ literals, literal.natAbs = number := by
  unfold assignmentOf at differs
  split at differs
  · rename_i present
    exact ⟨number, by simpa using present, Int.natAbs_natCast number⟩
  · split at differs
    · rename_i present
      exact ⟨-number, by simpa using present, by simp⟩
    · simp [bounded] at differs

/-- What is read off the literals of a least model is the least one, up to the number of variables. -/
theorem Finds.isLeast (finds : Finds preferred formula literals) (proper : Proper formula)
    (numVars : Nat) : IsLeast preferred numVars formula (assignmentOf preferred numVars literals) := by
  intro other holds number bounded same isPreferred
  by_contra differs
  obtain ⟨literal, member, isNumber⟩ := exists_of_assignmentOf_ne bounded differs
  subst isNumber
  have valueAt : ∀ {chosen : Int}, chosen ∈ literals →
      assignmentOf preferred numVars literals chosen.natAbs = decide (0 < chosen) :=
    fun inside => assignmentOf_of_mem finds.distinct (finds.ne_zero proper inside) inside
  have notTrue : ¬ other.holds literal = true := by
    intro isTrue
    rw [holds_iff other literal, ← valueAt member] at isTrue
    exact differs (isTrue.symm.trans isPreferred)
  rcases finds.least other holds with all | ⟨chosen, inside, sign, isFalse, smaller⟩
  · exact notTrue (all literal member)
  · have chosenDiffers : other chosen.natAbs ≠
        assignmentOf preferred numVars literals chosen.natAbs := by
      intro agrees
      rw [valueAt inside, ← holds_iff other chosen, isFalse] at agrees
      cases agrees
    rcases Nat.lt_trichotomy chosen.natAbs literal.natAbs with less | equal | greater
    · exact chosenDiffers (same chosen.natAbs less)
    · apply differs
      rw [← equal, valueAt inside, Bool.eq_iff_iff, decide_eq_true_eq]
      exact sign
    · exact notTrue (smaller literal member greater)

/-! ## The model that the search comes to -/

variable {numVars : Nat} {model : Assignment}

/-- The model that is handed out is read off literals that were found. -/
theorem finds_of_leastModel? (proper : Proper formula)
    (found : leastModel? preferred numVars formula = some model) :
    ∃ literals, Finds preferred formula literals ∧
      model = assignmentOf preferred numVars literals := by
  obtain ⟨literals, searched, rfl⟩ := Option.map_eq_some_iff.1 found
  have confirmed := confirmed_search preferred formula proper
  rw [searched] at confirmed
  exact ⟨literals, confirmed, rfl⟩

theorem eval_of_leastModel? (proper : Proper formula)
    (found : leastModel? preferred numVars formula = some model) : formula.eval model = true := by
  obtain ⟨literals, finds, rfl⟩ := finds_of_leastModel? proper found
  exact finds.holds _ (finds.allHold_assignmentOf proper numVars)

/-- The plain search finds the least model. -/
theorem isLeast_of_leastModel? (proper : Proper formula)
    (found : leastModel? preferred numVars formula = some model) :
    IsLeast preferred numVars formula model := by
  obtain ⟨literals, finds, rfl⟩ := finds_of_leastModel? proper found
  exact finds.isLeast proper numVars

/-- Where the plain search finds nothing, there is no model. -/
theorem eval_eq_false_of_leastModel? (proper : Proper formula)
    (failed : leastModel? preferred numVars formula = none) (assignment : Assignment) :
    formula.eval assignment = false := by
  have confirmed := confirmed_search preferred formula proper
  rw [Option.map_eq_none_iff.1 failed] at confirmed
  exact confirmed assignment

end TensorLogic.Sat
