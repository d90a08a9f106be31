/-
Module: TensorLogic.Proofs.Sat.Engine
Purpose: Engines that are right about every formula, and engines that find the least model.
Main exports: Engine.Decides, Engine.Sound, Engine.FindsLeast, Engine.decides_least, Engine.findsLeast_least,
  Engine.decides_greatest, Engine.decides_standard
-/
import TensorLogic.Proofs.Sat.Search
import TensorLogic.Sat.Engine

namespace TensorLogic.Engine

/-- An engine is sound and complete: it comes to a verdict on every formula, and the verdict is right.
-/
structure Decides (engine : Engine) : Prop where
  satisfiable : ∀ {round numVars : Nat} {formula : Formula} {model : Assignment},
    formula.IsOver numVars → engine.decide round numVars formula = .satisfiable model →
      formula.eval model = true
  unsatisfiable : ∀ {round numVars : Nat} {formula : Formula},
    formula.IsOver numVars → engine.decide round numVars formula = .unsatisfiable →
      ∀ assignment : Assignment, formula.eval assignment = false
  decided : ∀ {round numVars : Nat} {formula : Formula},
    formula.IsOver numVars → engine.decide round numVars formula ≠ .undecided

/-- The models that an engine finds are models; it may also fail to come to a verdict, or be wrong that
there is none. -/
def Sound (engine : Engine) : Prop :=
  ∀ {round numVars : Nat} {formula : Formula} {model : Assignment}, formula.IsOver numVars →
    engine.decide round numVars formula = .satisfiable model → formula.eval model = true

theorem Decides.sound {engine : Engine} (decides : engine.Decides) : engine.Sound :=
  decides.satisfiable

/-- An engine that decides finds a model if there is one. -/
theorem Decides.exists_model {engine : Engine} (decides : engine.Decides) {numVars : Nat}
    {formula : Formula} (isOver : formula.IsOver numVars) {assignment : Assignment}
    (holds : formula.eval assignment = true) (round : Nat) :
    ∃ model, engine.decide round numVars formula = .satisfiable model := by
  cases decided : engine.decide round numVars formula with
  | satisfiable model => exact ⟨model, rfl⟩
  | unsatisfiable =>
      have isFalse := decides.unsatisfiable isOver decided assignment
      rw [holds] at isFalse
      cases isFalse
  | undecided => exact absurd decided (decides.decided isOver)

/-- The models that an engine finds are the least ones, with false before true. -/
def FindsLeast (engine : Engine) : Prop :=
  ∀ {round numVars : Nat} {formula : Formula} {model : Assignment},
    formula.IsOver numVars → engine.decide round numVars formula = .satisfiable model →
      Sat.IsLeast false numVars formula model

/-- A verdict that is right about a formula. -/
def Right (preferred isLeast : Bool) (numVars : Nat) (formula : Formula) : Verdict → Prop
  | .satisfiable model => formula.eval model = true ∧
      (isLeast = true → Sat.IsLeast preferred numVars formula model)
  | .unsatisfiable => ∀ assignment : Assignment, formula.eval assignment = false
  | .undecided => False

variable {preferred isLeast : Bool} {numVars : Nat} {formula : Formula}

/-- The verdict of the plain search is right about every proper formula. -/
theorem right_plainVerdict (proper : Sat.Proper formula) :
    Right preferred isLeast numVars formula (plainVerdict preferred numVars formula) := by
  unfold plainVerdict
  cases found : Sat.leastModel? preferred numVars formula with
  | none => exact Sat.eval_eq_false_of_leastModel? proper found
  | some model =>
      exact ⟨Sat.eval_of_leastModel? proper found, fun _ =>
        Sat.isLeast_of_leastModel? proper found⟩

/-- A learned verdict was confirmed. -/
theorem right_learnedVerdict? {verdict : Verdict}
    (learned : learnedVerdict? preferred isLeast numVars formula = some verdict) :
    Right preferred isLeast numVars formula verdict := by
  cases verdict with
  | satisfiable model =>
      refine ⟨eval_of_learnedVerdict? learned, fun least => ?_⟩
      simp only [learnedVerdict?] at learned
      split at learned
      · obtain ⟨found, isFound, same⟩ := Option.map_eq_some_iff.1 learned
        cases same
        subst least
        exact Sat.isLeast_of_foundModel? isFound
      · split at learned <;> cases learned
      · cases learned
  | unsatisfiable => exact eval_eq_false_of_learnedVerdict? learned
  | undecided =>
      simp only [learnedVerdict?] at learned
      split at learned
      · obtain ⟨found, _, same⟩ := Option.map_eq_some_iff.1 learned
        cases same
      · split at learned <;> cases learned
      · cases learned

/-- The verdict of a search is right, whichever search it comes from. -/
theorem right_of_searchVerdict (round : Nat) {verdict : Verdict} (isOver : formula.IsOver numVars)
    (found : searchVerdict preferred isLeast round numVars formula = verdict) :
    Right preferred isLeast numVars formula verdict := by
  have proper := Sat.proper_of_isOver isOver
  rw [← found]
  unfold searchVerdict
  dsimp only
  split
  · exact right_plainVerdict proper
  · cases learned : learnedVerdict? preferred isLeast numVars formula with
    | none => exact right_plainVerdict proper
    | some verdict => exact right_learnedVerdict? learned

/-- An engine that searches decides every formula, as its search is complete. -/
theorem decides_search (name title : String) (preferred isLeast : Bool) :
    Decides ⟨name, title, searchVerdict preferred isLeast⟩ where
  satisfiable := by
    intro round numVars formula model isOver found
    exact (right_of_searchVerdict round isOver found).1
  unsatisfiable := by
    intro round numVars formula isOver found
    exact right_of_searchVerdict round isOver found
  decided := by
    intro round numVars formula isOver found
    exact right_of_searchVerdict round isOver found

/-- The engine that is to find least models is sound and complete. -/
theorem decides_least : least.Decides := decides_search "lex" "LexBackend" false true

theorem decides_greatest : greatest.Decides := decides_search "revlex" "RevLexBackend" true true

theorem decides_standard : standard.Decides := decides_search "z3" "Z3Backend" false false

/-- The engine that is to find least models does. -/
theorem findsLeast_least : least.FindsLeast := by
  intro round numVars formula model isOver found
  have right : Right false true numVars formula (.satisfiable model) :=
    right_of_searchVerdict round isOver found
  exact right.2 rfl

end TensorLogic.Engine
