/-
Module: TensorLogic.Sat.Least
Purpose: Checking that a search has found a model, and the least one.
Main exports: Sat.IsLeast, Sat.Marks.model, Sat.replay, Sat.replayAll, Sat.foundModel?,
  eval_of_foundModel?, isLeast_of_foundModel?
-/
import TensorLogic.Sat.Learning

namespace TensorLogic.Sat

/-!
A search makes one literal true after the other.  Some it decides, and some are forced by a clause all of whose
other literals are false by then.  If it decides only literals with the preferred value, and forces a variable
to the other value only after decisions about smaller variables, then every model that is the same up to that
variable has that value, too.  So its model is the least one.
-/

/-- A model that comes after another one has the other value at the first variable where they differ.  The
least model has the preferred value wherever some model does that is the same before. -/
def IsLeast (preferred : Bool) (numVars : Nat) (formula : Formula) (model : Assignment) : Prop :=
  ∀ other : Assignment, formula.eval other = true →
    ∀ number ≤ numVars, (∀ smaller < number, other smaller = model smaller) →
      other number = preferred → model number = preferred

/-- The assignment that makes marked literals false.  A variable up to the given number that has no mark has
the preferred value; those above it are false. -/
def Marks.model (marks : Marks) (preferred : Bool) (numVars : Nat) : Assignment := fun number =>
  if marks.isFalse (codeOf (!preferred) number) then preferred
  else if marks.isFalse (codeOf preferred number) then !preferred
  else preferred && number ≤ numVars

/-- Where a model does not have the preferred value, that value is marked as false. -/
theorem Marks.isFalse_of_model_ne {marks : Marks} {preferred : Bool} {numVars number : Nat}
    (bounded : number ≤ numVars) (differs : marks.model preferred numVars number ≠ preferred) :
    marks.isFalse (codeOf preferred number) = true := by
  unfold model at differs
  split at differs
  · exact absurd rfl differs
  · split at differs
    · assumption
    · simp [bounded] at differs

/-- Where the other value is marked as false, a model has the preferred one. -/
theorem Marks.model_eq_of_isFalse {marks : Marks} {preferred : Bool} {numVars number : Nat}
    (marked : marks.isFalse (codeOf (!preferred) number) = true) :
    marks.model preferred numVars number = preferred := by
  unfold model
  rw [if_pos marked]

/-- Make literals true one after the other.  Each of them has to be decided with the preferred value, or else
forced by a known clause; and if it is forced to have the other value, the variables decided before have to be
smaller. -/
def replay (known : Array (List Nat)) (preferred : Bool) (decided : Nat) (marks : Marks) :
    List Step → Option Marks
  | [] => some marks
  | step :: steps =>
      let number := numberOf step.code
      match step.ground with
      | none =>
          if step.code = codeOf preferred number then
            replay known preferred (Nat.max decided number)
              (marks.refute (opposite step.code)) steps
          else none
      | some ground =>
          match known[ground]? with
          | none => none
          | some clause =>
              if readFrom marks none clause = .forced step.code ∧
                  (step.code = codeOf preferred number ∨ decided < number) then
                replay known preferred decided (marks.refute (opposite step.code)) steps
              else none

/-- Make literals true, however they were found. -/
def replayAll (marks : Marks) (steps : List Step) : Marks :=
  marks.refuteAll (steps.map fun step => opposite step.code)

namespace Marks

/-- A mark stays. -/
theorem isFalse_refute_of {marks : Marks} {code other : Nat}
    (marked : marks.isFalse other = true) : (marks.refute code).isFalse other = true := by
  simp only [isFalse, refute, Array.getElem?_setIfInBounds, beq_iff_eq] at *
  split
  · rename_i same
    subst same
    split
    · rfl
    · rename_i outside
      rw [Array.getElem?_eq_none (Nat.le_of_not_lt outside)] at marked
      cases marked
  · exact marked

end Marks

/-- A mark stays until the end. -/
theorem isFalse_of_replay {known : Array (List Nat)} {preferred : Bool} {decided : Nat}
    {marks final : Marks} {steps : List Step}
    (replayed : replay known preferred decided marks steps = some final) {code : Nat}
    (marked : marks.isFalse code = true) : final.isFalse code = true := by
  induction steps generalizing decided marks with
  | nil =>
      cases replayed
      exact marked
  | cons step steps hypothesis =>
      simp only [replay] at replayed
      split at replayed
      · split at replayed
        · exact hypothesis replayed (Marks.isFalse_refute_of marked)
        · cases replayed
      · split at replayed
        · cases replayed
        · split at replayed
          · exact hypothesis replayed (Marks.isFalse_refute_of marked)
          · cases replayed

/-- Where the preferred value of a variable is marked as false in the end, it is false in every model that has
the preferred value for all smaller variables that are decided. -/
theorem satisfies_eq_false_of_replay {formula : Formula} {known : Array (List Nat)}
    (sound : Sound formula known) {preferred : Bool} {decided number : Nat} {marks final : Marks}
    {steps : List Step} (replayed : replay known preferred decided marks steps = some final)
    {other : Assignment} (isModel : formula.eval other = true)
    (agrees : ∀ smaller < number, final.isFalse (codeOf (!preferred) smaller) = true →
      other smaller = preferred)
    (before : decided < number ∧ marks.Respects other ∨
      number ≤ decided ∧ (marks.isFalse (codeOf preferred number) = true →
        satisfies other (codeOf preferred number) = false))
    (marked : final.isFalse (codeOf preferred number) = true) :
    satisfies other (codeOf preferred number) = false := by
  induction steps generalizing decided marks with
  | nil =>
      cases replayed
      rcases before with ⟨_, respects⟩ | ⟨_, direct⟩
      · exact respects _ marked
      · exact direct marked
  | cons step steps hypothesis =>
      simp only [replay] at replayed
      split at replayed
      · split at replayed
        · rename_i isPreferred
          have markCode := (congrArg opposite isPreferred).trans (opposite_codeOf _ _)
          refine hypothesis replayed ?_
          rw [markCode]
          have kept : marks.isFalse (codeOf preferred number) = true ∨
              codeOf preferred number = codeOf (!preferred) (numberOf step.code) →
                marks.isFalse (codeOf preferred number) = true := fun cases =>
            cases.resolve_right (codeOf_ne preferred number _)
          rcases before with ⟨lower, respects⟩ | ⟨upper, direct⟩
          · by_cases isSmaller : numberOf step.code < number
            · refine .inl ⟨Nat.max_lt.2 ⟨lower, isSmaller⟩, ?_⟩
              intro code isMarked
              rcases Marks.isFalse_refute isMarked with earlier | rfl
              · exact respects code earlier
              · rw [satisfies_codeOf, agrees _ isSmaller]
                · cases preferred <;> rfl
                · rw [markCode] at replayed
                  exact isFalse_of_replay replayed isMarked
            · refine .inr ⟨Nat.le_trans (Nat.le_of_not_lt isSmaller) (Nat.le_max_right _ _), ?_⟩
              intro isMarked
              exact respects _ (kept (Marks.isFalse_refute isMarked))
          · refine .inr ⟨Nat.le_trans upper (Nat.le_max_left _ _), ?_⟩
            intro isMarked
            exact direct (kept (Marks.isFalse_refute isMarked))
        · cases replayed
      · split at replayed
        · cases replayed
        · rename_i clause found
          split at replayed
          · rename_i isForced
            refine hypothesis replayed ?_
            rcases before with ⟨lower, respects⟩ | ⟨upper, direct⟩
            · refine .inl ⟨lower, respects.refute ?_⟩
              have holds := sound clause (Array.mem_of_getElem? found) other isModel
              rw [satisfies_opposite,
                (readFrom_sound respects none (.inl holds)).2 _ isForced.1]
              rfl
            · refine .inr ⟨upper, ?_⟩
              intro isMarked
              rcases Marks.isFalse_refute isMarked with earlier | same
              · exact direct earlier
              · exfalso
                obtain ⟨value, isCode⟩ := exists_eq_codeOf step.code
                rw [isCode, opposite_codeOf] at same
                have sameNumber := congrArg numberOf same
                simp only [numberOf_codeOf] at sameNumber
                rcases isForced.2 with isPreferred | isLower
                · rw [isPreferred] at isCode
                  by_cases equal : preferred = value
                  · subst equal
                    exact codeOf_ne _ _ _ same
                  · have negated : value = !preferred := by
                      revert equal
                      cases preferred <;> cases value <;> simp
                    subst negated
                    exact codeOf_ne _ _ _ isCode
                · omega
          · cases replayed

/-- The model that a search comes to in this way is the least one. -/
theorem isLeast_of_replay {formula : Formula} {known : Array (List Nat)}
    (sound : Sound formula known) {preferred : Bool} {limit : Nat} {final : Marks}
    {steps : List Step} (replayed : replay known preferred 0 (.create limit) steps = some final)
    (numVars : Nat) : IsLeast preferred numVars formula (final.model preferred numVars) := by
  intro other isModel number bounded agrees isPreferred
  refine Decidable.byContradiction fun differs => ?_
  have unmarked : (Marks.create limit).Respects other := by
    intro code marked
    rw [Marks.isFalse_create] at marked
    cases marked
  have isRefuted := satisfies_eq_false_of_replay sound replayed isModel
    (fun smaller isSmaller marked =>
      (agrees smaller isSmaller).trans (Marks.model_eq_of_isFalse marked))
    (by
      rcases Nat.eq_zero_or_pos number with isZero | isPositive
      · refine .inr ⟨Nat.le_of_eq isZero, fun marked => ?_⟩
        exact unmarked _ marked
      · exact .inl ⟨isPositive, unmarked⟩)
    (Marks.isFalse_of_model_ne bounded differs)
  rw [satisfies_codeOf, isPreferred] at isRefuted
  simp at isRefuted

/-- The model to which steps lead, if it is one, and the least one if that is asked for. -/
def foundModel? (preferred isLeast : Bool) (limit numVars : Nat) (formula : Formula)
    (steps : List Step) (facts : List Lemma) : Option Assignment :=
  let marks? :=
    if isLeast then
      (derived? limit formula facts).bind fun known =>
        replay known preferred 0 (.create limit) steps
    else some (replayAll (.create limit) steps)
  marks?.bind fun marks =>
    let model := marks.model preferred numVars
    if formula.eval model then some model else none

/-- What is found is a model. -/
theorem eval_of_foundModel? {preferred isLeast : Bool} {limit numVars : Nat} {formula : Formula}
    {steps : List Step} {facts : List Lemma} {model : Assignment}
    (found : foundModel? preferred isLeast limit numVars formula steps facts = some model) :
    formula.eval model = true := by
  simp only [foundModel?, Option.bind_eq_some_iff] at found
  obtain ⟨marks, _, isFound⟩ := found
  split at isFound
  · cases isFound
    assumption
  · cases isFound

/-- If that is asked for, the model that is found is the least one. -/
theorem isLeast_of_foundModel? {preferred : Bool} {limit numVars : Nat} {formula : Formula}
    {steps : List Step} {facts : List Lemma} {model : Assignment}
    (found : foundModel? preferred true limit numVars formula steps facts = some model) :
    IsLeast preferred numVars formula model := by
  simp only [foundModel?, if_true, Option.bind_eq_some_iff] at found
  obtain ⟨marks, ⟨known, derived, replayed⟩, isFound⟩ := found
  split at isFound
  · cases isFound
    exact isLeast_of_replay (sound_of_derived? derived) replayed numVars
  · cases isFound

end TensorLogic.Sat
