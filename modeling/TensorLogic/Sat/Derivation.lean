/-
Module: TensorLogic.Sat.Derivation
Purpose: Derivations of clauses from a formula, and checking them.
Main exports: Sat.Entailed, Sat.Lemma, Sat.Marks, Sat.readFrom, Sat.derived?, Sat.refutes,
  sound_of_derived?, eval_eq_false_of_refutes
-/
import TensorLogic.Sat.Code

namespace TensorLogic.Sat

/-!
A search can be intricate, for what it finds is easy to check.  A clause that it learns comes with its
grounds: the numbers of clauses that are known already, in an order such that, once all literals of the new
clause are assumed to be false, each of them forces one more literal to be true, until the last one has no
literal left that could be.  So nothing makes all known clauses true and the new one false.

A formula from which the empty clause is derived has no model.

The literals that are known to be false are marked with the number of the assumption under which they are,
so that the marks need not be taken away before the next clause is checked.
-/

/-- A clause of codes that holds wherever a formula does. -/
def Entailed (formula : Formula) (clause : List Nat) : Prop :=
  ∀ assignment, formula.eval assignment = true → clause.any (satisfies assignment) = true

/-- A clause and the numbers of the clauses that it is derived from. -/
structure Lemma where
  clause : List Nat
  grounds : List Nat
deriving Repr

/-- For each code the number of the latest assumption under which its literal is known to be false, and the
number of the present one. -/
structure Marks where
  stamps : Array Nat
  present : Nat

namespace Marks

/-- Whether a literal is known to be false. -/
def isFalse (marks : Marks) (code : Nat) : Bool := marks.stamps[code]? == some marks.present

/-- Mark a literal as false. -/
def refute (marks : Marks) (code : Nat) : Marks :=
  { marks with stamps := marks.stamps.setIfInBounds code marks.present }

/-- No literal with a code below the limit is marked. -/
def create (limit : Nat) : Marks := ⟨Array.replicate limit 0, 1⟩

/-- Begin a new assumption. -/
def next (marks : Marks) : Marks := { marks with present := marks.present + 1 }

/-- No literal has a mark of an assumption that is still to come. -/
def Fresh (marks : Marks) : Prop := ∀ stamp ∈ marks.stamps, stamp ≤ marks.present

/-- The marked literals are false under an assignment. -/
def Respects (marks : Marks) (assignment : Assignment) : Prop :=
  ∀ code, marks.isFalse code = true → satisfies assignment code = false

/-- No mark is set at first. -/
theorem isFalse_create (limit code : Nat) : (create limit).isFalse code = false := by
  simp only [isFalse, create, Array.getElem?_replicate]
  split <;> simp

/-- No mark reaches ahead at first. -/
theorem fresh_create (limit : Nat) : (create limit).Fresh := by
  intro stamp member
  rw [(Array.mem_replicate.1 member).2]
  exact Nat.zero_le _

/-- A new assumption begins without marks. -/
theorem respects_next {marks : Marks} (fresh : marks.Fresh) (assignment : Assignment) :
    marks.next.Respects assignment := by
  intro code marked
  simp only [isFalse, next, beq_iff_eq] at marked
  have bound := fresh _ (Array.mem_of_getElem? marked)
  omega

/-- What is marked was marked before or is the literal that is marked now. -/
theorem isFalse_refute {marks : Marks} {code other : Nat}
    (marked : (marks.refute code).isFalse other = true) :
    marks.isFalse other = true ∨ other = code := by
  by_cases same : other = code
  · exact .inr same
  · refine .inl ?_
    simpa only [isFalse, refute, Array.getElem?_setIfInBounds_ne (Ne.symm same)] using marked

/-- Marking a false literal is right. -/
theorem Respects.refute {marks : Marks} {assignment : Assignment}
    (respects : marks.Respects assignment) {code : Nat}
    (isRefuted : satisfies assignment code = false) : (marks.refute code).Respects assignment := by
  intro other marked
  rcases isFalse_refute marked with before | rfl
  · exact respects other before
  · exact isRefuted

/-- Marking does not reach ahead. -/
theorem Fresh.refute {marks : Marks} (fresh : marks.Fresh) (code : Nat) :
    (marks.refute code).Fresh := by
  intro stamp member
  rcases Array.mem_or_eq_of_mem_setIfInBounds member with before | rfl
  · exact fresh stamp before
  · exact Nat.le_refl _

/-- A new assumption does not reach ahead. -/
theorem Fresh.next {marks : Marks} (fresh : marks.Fresh) : marks.next.Fresh :=
  fun stamp member => Nat.le_succ_of_le (fresh stamp member)

/-- Mark literals as false. -/
def refuteAll (marks : Marks) (codes : List Nat) : Marks := codes.foldl refute marks

/-- Marking false literals is right. -/
theorem Respects.refuteAll {marks : Marks} {assignment : Assignment}
    (respects : marks.Respects assignment) {codes : List Nat}
    (refuted : ∀ code ∈ codes, satisfies assignment code = false) :
    (marks.refuteAll codes).Respects assignment := by
  induction codes generalizing marks with
  | nil => exact respects
  | cons code codes hypothesis =>
      exact hypothesis (respects.refute (refuted code List.mem_cons_self))
        fun other member => refuted other (List.mem_cons_of_mem _ member)

/-- Marking does not reach ahead. -/
theorem Fresh.refuteAll {marks : Marks} (fresh : marks.Fresh) (codes : List Nat) :
    (marks.refuteAll codes).Fresh := by
  induction codes generalizing marks with
  | nil => exact fresh
  | cons code codes hypothesis => exact hypothesis (fresh.refute code)

end Marks

/-- What a clause says under an assumption. -/
inductive Reading where
  /-- None of its literals can be true. -/
  | conflict
  /-- Only this literal can be true. -/
  | forced (code : Nat)
  /-- Several literals can be true. -/
  | undecided
deriving Repr, DecidableEq

/-- Read on in a clause whose literals so far are false, except for one that was found, if any. -/
def readFrom (marks : Marks) (found : Option Nat) : List Nat → Reading
  | [] =>
      match found with
      | none => .conflict
      | some code => .forced code
  | code :: rest =>
      if marks.isFalse code then readFrom marks found rest
      else
        match found with
        | none => readFrom marks (some code) rest
        | some other => if other = code then readFrom marks found rest else .undecided

/-- Under an assumption that is right, a true literal of a clause is the one that it forces. -/
theorem readFrom_sound {marks : Marks} {assignment : Assignment}
    (respects : marks.Respects assignment) (found : Option Nat) {clause : List Nat}
    (holds : clause.any (satisfies assignment) = true ∨
      ∃ code, found = some code ∧ satisfies assignment code = true) :
    readFrom marks found clause ≠ .conflict ∧
      ∀ code, readFrom marks found clause = .forced code → satisfies assignment code = true := by
  induction clause generalizing found with
  | nil =>
      rcases holds with impossible | ⟨code, rfl, isTrue⟩
      · simp at impossible
      · simp only [readFrom]
        exact ⟨by simp, fun other same => by cases same; exact isTrue⟩
  | cons first rest hypothesis =>
      simp only [readFrom]
      split
      · rename_i marked
        refine hypothesis _ ?_
        rcases holds with some | found
        · simp only [List.any_cons, respects first marked, Bool.false_or] at some
          exact .inl some
        · exact .inr found
      · cases found with
        | none =>
            refine hypothesis _ ?_
            rcases holds with some | ⟨code, impossible, _⟩
            · rw [List.any_cons, Bool.or_eq_true] at some
              rcases some with isFirst | inRest
              · exact .inr ⟨first, rfl, isFirst⟩
              · exact .inl inRest
            · cases impossible
        | some other =>
            simp only
            split
            · rename_i same
              refine hypothesis _ ?_
              rcases holds with some | found
              · rw [List.any_cons, Bool.or_eq_true] at some
                rcases some with isFirst | inRest
                · exact .inr ⟨other, rfl, same ▸ isFirst⟩
                · exact .inl inRest
              · exact .inr found
            · exact ⟨by simp, fun code impossible => by cases impossible⟩

/-- Follow the grounds under an assumption.  They have to lead to a conflict. -/
def follow (table : Array (List Nat)) (marks : Marks) : List Nat → Bool × Marks
  | [] => (false, marks)
  | ground :: grounds =>
      match table[ground]? with
      | none => (false, marks)
      | some clause =>
          match readFrom marks none clause with
          | .conflict => (true, marks)
          | .forced code => follow table (marks.refute (opposite code)) grounds
          | .undecided => (false, marks)

/-- All clauses of a table are entailed. -/
def Sound (formula : Formula) (table : Array (List Nat)) : Prop :=
  ∀ clause ∈ table, Entailed formula clause

/-- Under an assumption that is right in some model there is no conflict. -/
theorem follow_eq_false {formula : Formula} {table : Array (List Nat)} (sound : Sound formula table)
    {assignment : Assignment} (isModel : formula.eval assignment = true) {marks : Marks}
    (respects : marks.Respects assignment) (grounds : List Nat) :
    (follow table marks grounds).1 = false := by
  induction grounds generalizing marks with
  | nil => rfl
  | cons ground grounds hypothesis =>
      simp only [follow]
      split
      · rfl
      · rename_i clause found
        have holds := sound clause (Array.mem_of_getElem? found) assignment isModel
        obtain ⟨noConflict, isForced⟩ := readFrom_sound respects none (.inl holds)
        split
        · exact absurd (by assumption) noConflict
        · rename_i code forces
          refine hypothesis (respects.refute ?_)
          rw [satisfies_opposite, isForced code forces]
          rfl
        · rfl

/-- Following grounds does not reach ahead. -/
theorem fresh_follow {table : Array (List Nat)} {marks : Marks} (fresh : marks.Fresh)
    (grounds : List Nat) : (follow table marks grounds).2.Fresh := by
  induction grounds generalizing marks with
  | nil => exact fresh
  | cons ground grounds hypothesis =>
      simp only [follow]
      split
      · exact fresh
      · split
        · exact fresh
        · exact hypothesis (fresh.refute _)
        · exact fresh

/-- The clauses that are known once some lemmas are derived one after the other, if they can be. -/
def derive (table : Array (List Nat)) (marks : Marks) : List Lemma → Option (Array (List Nat))
  | [] => some table
  | fact :: facts =>
      let (isDerived, followed) := follow table (marks.next.refuteAll fact.clause) fact.grounds
      if isDerived then derive (table.push fact.clause) followed facts else none

/-- What is derived from entailed clauses is entailed. -/
theorem sound_of_derive {formula : Formula} {table result : Array (List Nat)} {marks : Marks}
    {facts : List Lemma} (sound : Sound formula table) (fresh : marks.Fresh)
    (derived : derive table marks facts = some result) : Sound formula result := by
  induction facts generalizing table marks with
  | nil =>
      cases derived
      exact sound
  | cons fact facts hypothesis =>
      simp only [derive] at derived
      split at derived
      · rename_i isDerived
        refine hypothesis ?_ (fresh_follow (fresh.next.refuteAll _) _) derived
        intro clause member
        rcases Array.mem_push.1 member with before | rfl
        · exact sound clause before
        · intro assignment isModel
          cases value : fact.clause.any (satisfies assignment) with
          | true => rfl
          | false =>
              have refuted : ∀ code ∈ fact.clause, satisfies assignment code = false := by
                simpa using value
              have respects := (Marks.respects_next fresh assignment).refuteAll refuted
              rw [follow_eq_false sound isModel respects] at isDerived
              cases isDerived
      · cases derived

/-- The clauses of a formula, by their numbers. -/
def table (formula : Formula) : Array (List Nat) := (formula.map codes).toArray

/-- The clauses of a formula hold where it does. -/
theorem sound_table (formula : Formula) : Sound formula (table formula) := by
  intro clause member assignment isModel
  simp only [table, List.mem_toArray, List.mem_map] at member
  obtain ⟨original, inFormula, rfl⟩ := member
  rw [any_satisfies_codes]
  exact List.all_eq_true.1 isModel original inFormula

/-- The clauses that are known of a formula once some lemmas are derived, if they can be.  All codes are
less than the limit. -/
def derived? (limit : Nat) (formula : Formula) (facts : List Lemma) : Option (Array (List Nat)) :=
  derive (table formula) (.create limit) facts

/-- Whatever is known of a formula is entailed by it. -/
theorem sound_of_derived? {limit : Nat} {formula : Formula} {facts : List Lemma}
    {result : Array (List Nat)} (derived : derived? limit formula facts = some result) :
    Sound formula result :=
  sound_of_derive (sound_table formula) (Marks.fresh_create limit) derived

/-- Whether lemmas lead to the empty clause. -/
def refutes (limit : Nat) (formula : Formula) (facts : List Lemma) : Bool :=
  match derived? limit formula facts with
  | some known => known.back? == some []
  | none => false

/-- A formula from which the empty clause is derived has no model. -/
theorem eval_eq_false_of_refutes {limit : Nat} {formula : Formula} {facts : List Lemma}
    (refuted : refutes limit formula facts = true) (assignment : Assignment) :
    formula.eval assignment = false := by
  unfold refutes at refuted
  split at refuted
  · rename_i known derived
    have member : ([] : List Nat) ∈ known := Array.mem_of_back? (beq_iff_eq.1 refuted)
    cases value : formula.eval assignment with
    | false => rfl
    | true => simpa using sound_of_derived? derived [] member assignment value
  · cases refuted

/-- Three clauses leave no model: the first two force the second variable, which the third forbids. -/
example :
    refutes 6 [[1, 2], [-1, 2], [-2]] [⟨[code 2], [0, 1]⟩, ⟨[], [3, 2]⟩] = true ∧
      refutes 6 [[1, 2], [-2]] [⟨[], [0, 1]⟩] = false := by decide +kernel

end TensorLogic.Sat
