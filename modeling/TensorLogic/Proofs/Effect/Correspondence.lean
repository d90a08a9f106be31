/-
Module: TensorLogic.Proofs.Effect.Correspondence
Purpose: Two computations on two states that fail with the same fault, or else give related results.
Main exports: SameOutcome, Bridge, Bridge.idle, Bridge.Corresponds, Bridge.Corresponds.bind,
  Bridge.Corresponds.getBind, Bridge.Corresponds.visit, Bridge.Corresponds.listMapM,
  Bridge.Corresponds.visit2
-/
import Mathlib.Data.List.Forall2
import TensorLogic.Proofs.Effect.Run
import TensorLogic.Traversal

namespace TensorLogic

variable {σ τ α β γ δ : Type}

/-- Two outcomes are the same fault, or two results with some relation. -/
inductive SameOutcome (Related : α → β → Prop) : Except Fault α → Except Fault β → Prop where
  | ok {left : α} {right : β} (related : Related left right) :
      SameOutcome Related (.ok left) (.ok right)
  | error (fault : Fault) : SameOutcome Related (.error fault) (.error fault)

namespace SameOutcome

theorem mono {Related Weaker : α → β → Prop} {left : Except Fault α} {right : Except Fault β}
    (same : SameOutcome Related left right)
    (weaker : ∀ first second, Related first second → Weaker first second) :
    SameOutcome Weaker left right := by
  cases same with
  | ok related => exact ok (weaker _ _ related)
  | error fault => exact error fault

/-- Outcomes are the same after a further step where the step has the same outcome on related results. -/
theorem bind {Related : α → β → Prop} {Next : γ → δ → Prop} {left : Except Fault α}
    {right : Except Fault β} {after : α → Except Fault γ} {afterRight : β → Except Fault δ}
    (same : SameOutcome Related left right)
    (rest : ∀ first second, Related first second →
      SameOutcome Next (after first) (afterRight second)) :
    SameOutcome Next (left >>= after) (right >>= afterRight) := by
  cases same with
  | ok related => exact rest _ _ related
  | error fault => exact error fault

/-- Both sides begin with the same step. -/
theorem bindSame {Next : γ → δ → Prop} (given : Except Fault α) {after : α → Except Fault γ}
    {afterRight : α → Except Fault δ}
    (rest : ∀ result, SameOutcome Next (after result) (afterRight result)) :
    SameOutcome Next (given >>= after) (given >>= afterRight) := by
  cases given with
  | ok result => exact rest result
  | error fault => exact error fault

theorem refl {Related : α → α → Prop} (outcome : Except Fault α)
    (related : ∀ result, Related result result) : SameOutcome Related outcome outcome := by
  cases outcome with
  | ok result => exact ok (related result)
  | error fault => exact error fault

theorem eq {left right : Except Fault α} (same : SameOutcome Eq left right) : left = right := by
  cases same with
  | ok isSame => rw [isSame]
  | error fault => rfl

/-- One outcome, mapped in two ways, is the same twice where the two images of a result are related. -/
theorem of_map {Related : β → γ → Prop} {function : α → β} {other : α → γ}
    (outcome : Except Fault α) (related : ∀ result, Related (function result) (other result)) :
    SameOutcome Related (outcome.map function) (outcome.map other) := by
  cases outcome with
  | ok result => exact ok (related result)
  | error fault => exact error fault

theorem map_right {Related : α → β → Prop} {Result : α → γ → Prop} {left : Except Fault α}
    {right : Except Fault β} {function : β → γ} (same : SameOutcome Related left right)
    (related : ∀ first second, Related first second → Result first (function second)) :
    SameOutcome Result left (right.map function) := by
  cases same with
  | ok holds => exact ok (related _ _ holds)
  | error fault => exact error fault

/-- Steps for each member have the same outcome where each step has. -/
theorem mapM {Related : α → β → Prop} {Result : γ → δ → Prop} {function : α → Except Fault γ}
    {other : β → Except Fault δ} {lefts : List α} {rights : List β}
    (related : List.Forall₂ Related lefts rights)
    (each : ∀ first second, Related first second →
      SameOutcome Result (function first) (other second)) :
    SameOutcome (List.Forall₂ Result) (lefts.mapM function) (rights.mapM other) := by
  induction related with
  | nil => exact ok .nil
  | cons head _ hypothesis =>
      rw [List.mapM_cons, List.mapM_cons]
      exact (each _ _ head).bind fun first second found =>
        hypothesis.bind fun firsts seconds rest => ok (.cons found rest)

end SameOutcome

/-- What the states of two computations have to do with each other, and which pairs of states can come
after a pair. -/
structure Bridge (σ τ : Type) where
  Valid : σ × τ → Prop
  Reaches : σ × τ → σ × τ → Prop
  reaches_refl : ∀ states, Reaches states states
  reaches_trans : ∀ {first second third}, Reaches first second → Reaches second third →
    Reaches first third

namespace Bridge

/-- States that do not matter. -/
def idle : Bridge σ τ where
  Valid := fun _ => True
  Reaches := fun _ _ => True
  reaches_refl := fun _ => trivial
  reaches_trans := fun _ _ => trivial

variable (bridge : Bridge σ τ)

/-- The pair of states after two computations. -/
def after (left : Act σ α) (right : Act τ β) (states : σ × τ) : σ × τ :=
  ((left.runOn states.1).2, (right.runOn states.2).2)

/-- Two computations have the same outcome, up to a relation of their results in the states that they
leave. -/
def Corresponds (states : σ × τ) (left : Act σ α) (right : Act τ β)
    (Related : σ × τ → α → β → Prop) : Prop :=
  bridge.Valid states →
    bridge.Valid (after left right states) ∧ bridge.Reaches states (after left right states) ∧
      SameOutcome (Related (after left right states)) (left.runOn states.1).1
        (right.runOn states.2).1

/-- A relation of results that still holds in all later states. -/
def Stable (Related : σ × τ → α → β → Prop) : Prop :=
  ∀ ⦃states next left right⦄, bridge.Reaches states next → Related states left right →
    Related next left right

variable {bridge} {states : σ × τ} {left : Act σ α} {right : Act τ β}
  {Related : σ × τ → α → β → Prop}

/-- A relation between elements that lasts also lasts between lists of them. -/
theorem Stable.list (stable : bridge.Stable Related) :
    bridge.Stable fun states => List.Forall₂ (Related states) := by
  intro states next lefts rights reached related
  exact related.imp fun first second => stable reached

namespace Corresponds

/-- Two computations correspond where both are seen to run, to states that are related again and to the same
outcome. -/
theorem of_runs {outcome : Except Fault α} {other : Except Fault β} {next : σ × τ}
    (ran : left.runOn states.1 = (outcome, next.1)) (ranRight : right.runOn states.2 = (other, next.2))
    (valid : bridge.Valid states → bridge.Valid next) (reached : bridge.Reaches states next)
    (same : SameOutcome (Related next) outcome other) :
    bridge.Corresponds states left right Related := by
  intro validStates
  have isAfter : after left right states = next := by
    rw [after, ran, ranRight]
  rw [isAfter, ran, ranRight]
  exact ⟨valid validStates, reached, same⟩

theorem lift {given : Except Fault α} {other : Except Fault β}
    (same : SameOutcome (Related states) given other) :
    bridge.Corresponds states (liftM given) (liftM other) Related :=
  of_runs rfl rfl id (bridge.reaches_refl states) same

theorem pure {result : α} {other : β} (related : Related states result other) :
    bridge.Corresponds states (pure result) (pure other) Related :=
  lift (.ok related)

theorem throw (fault : Fault) :
    bridge.Corresponds states (throw fault : Act σ α) (throw fault : Act τ β) Related :=
  lift (.error fault)

/-- The states may be taken for related, since nothing is claimed about others. -/
theorem of_valid (corresponds : bridge.Valid states → bridge.Corresponds states left right Related) :
    bridge.Corresponds states left right Related :=
  fun valid => corresponds valid valid

/-- What is known about two results may be weakened, given that the states are reached. -/
theorem weaken {Weaker : σ × τ → α → β → Prop}
    (corresponds : bridge.Corresponds states left right Related)
    (weaker : ∀ next first second, bridge.Reaches states next → Related next first second →
      Weaker next first second) :
    bridge.Corresponds states left right Weaker := by
  intro valid
  obtain ⟨validAfter, reached, same⟩ := corresponds valid
  exact ⟨validAfter, reached, same.mono fun first second => weaker _ first second reached⟩

/-- Computations that take turns correspond where each step does from the states that it is handed. -/
theorem bind {next : α → Act σ γ} {nextRight : β → Act τ δ}
    {Result : σ × τ → γ → δ → Prop} (first : bridge.Corresponds states left right Related)
    (rest : ∀ middle result other, bridge.Valid middle → bridge.Reaches states middle →
      Related middle result other →
        bridge.Corresponds middle (next result) (nextRight other) Result) :
    bridge.Corresponds states (left >>= next) (right >>= nextRight) Result := by
  intro valid
  obtain ⟨validAfter, reached, same⟩ := first valid
  rw [after] at validAfter reached same
  generalize ran : left.runOn states.1 = found at validAfter reached same
  generalize ranRight : right.runOn states.2 = foundRight at validAfter reached same
  obtain ⟨outcome, middle⟩ := found
  obtain ⟨outcomeRight, middleRight⟩ := foundRight
  cases same with
  | error fault =>
      exact of_runs (Act.runOn_bind_error ran next) (Act.runOn_bind_error ranRight nextRight)
        (fun _ => validAfter) reached (SameOutcome.error fault) valid
  | @ok result other related =>
      obtain ⟨validLast, reachedLast, last⟩ :=
        rest (middle, middleRight) result other validAfter reached related validAfter
      refine of_runs ?_ ?_ (fun _ => validLast) (bridge.reaches_trans reached reachedLast) last valid
      · rw [Act.runOn_bind_ok ran]
        rfl
      · rw [Act.runOn_bind_ok ranRight]
        rfl

/-- A step that leaves the states as they are. -/
theorem liftBind {given : Except Fault α} {other : Except Fault β} {Given : α → β → Prop}
    {next : α → Act σ γ} {nextRight : β → Act τ δ} {Result : σ × τ → γ → δ → Prop}
    (same : SameOutcome Given given other)
    (rest : ∀ first second, Given first second →
      bridge.Corresponds states (next first) (nextRight second) Result) :
    bridge.Corresponds states (liftM given >>= next) (liftM other >>= nextRight) Result := by
  cases same with
  | ok related => exact rest _ _ related
  | error fault =>
      exact of_runs (Act.runOn_bind_error rfl next) (Act.runOn_bind_error rfl nextRight) id
        (bridge.reaches_refl states) (.error fault)

theorem liftBindSame (given : Except Fault α) {next : α → Act σ γ} {nextRight : α → Act τ δ}
    {Result : σ × τ → γ → δ → Prop}
    (rest : ∀ result, bridge.Corresponds states (next result) (nextRight result) Result) :
    bridge.Corresponds states (liftM given >>= next) (liftM given >>= nextRight) Result := by
  have same : SameOutcome Eq given given := .refl given fun _ => rfl
  refine liftBind same fun first second isSame => ?_
  subst isSame
  exact rest first

/-- Both sides look at their states. -/
theorem getBind {next : σ → Act σ γ} {nextRight : τ → Act τ δ} {Result : σ × τ → γ → δ → Prop}
    (rest : bridge.Corresponds states (next states.1) (nextRight states.2) Result) :
    bridge.Corresponds states (get >>= next) (get >>= nextRight) Result := by
  intro valid
  obtain ⟨validAfter, reached, same⟩ := rest valid
  exact of_runs (Act.runOn_bind_ok (Act.runOn_get states.1) next)
    (Act.runOn_bind_ok (Act.runOn_get states.2) nextRight) (fun _ => validAfter) reached same valid

/-! ## Computations that are made for every member of a list -/

/-- Visiting related members corresponds where each visit does, as long as the relations last from visit to
visit. -/
theorem visit {Element : σ × τ → α → β → Prop} {Result : σ × τ → γ → δ → Prop}
    {function : α → Act σ γ} {other : β → Act τ δ} (stable : bridge.Stable Element)
    (stableResult : bridge.Stable Result)
    (each : ∀ states first second, Element states first second →
      bridge.Corresponds states (function first) (other second) Result)
    {lefts : List α} {rights : List β} {states : σ × τ}
    (related : List.Forall₂ (Element states) lefts rights) :
    bridge.Corresponds states (visit function lefts) (TensorLogic.visit other rights)
      fun states results others => List.Forall₂ (Result states) results.1 others.1 := by
  induction lefts generalizing rights states with
  | nil =>
      cases related
      exact pure .nil
  | cons first lefts hypothesis =>
      cases related with
      | cons head tail =>
          refine (each states first _ head).bind fun middle result otherResult _ reached found => ?_
          refine (hypothesis (stable.list reached tail)).bind
            fun last results others _ reachedLast rest => ?_
          exact pure (.cons (stableResult reachedLast found) rest)

/-- The same is done for every member. -/
theorem forM {Element : σ × τ → α → β → Prop} {function : α → Act σ PUnit}
    {other : β → Act τ PUnit} (stable : bridge.Stable Element)
    (each : ∀ states first second, Element states first second →
      bridge.Corresponds states (function first) (other second) fun _ _ _ => True)
    {lefts : List α} {rights : List β} {states : σ × τ}
    (related : List.Forall₂ (Element states) lefts rights) :
    bridge.Corresponds states (lefts.forM function) (rights.forM other) fun _ _ _ => True := by
  induction lefts generalizing rights states with
  | nil =>
      cases related
      exact pure trivial
  | cons first lefts hypothesis =>
      cases related with
      | cons head tail =>
          exact (each states first _ head).bind fun middle _ _ _ reached _ =>
            hypothesis (stable.list reached tail)

/-- Going through two lists corresponds where each member does. -/
theorem listMapM {Element : σ × τ → α → β → Prop} {Result : σ × τ → γ → δ → Prop}
    {function : α → Act σ γ} {other : β → Act τ δ} (stable : bridge.Stable Element)
    (stableResult : bridge.Stable Result)
    (each : ∀ states first second, Element states first second →
      bridge.Corresponds states (function first) (other second) Result)
    {lefts : List α} {rights : List β} {states : σ × τ}
    (related : List.Forall₂ (Element states) lefts rights) :
    bridge.Corresponds states (lefts.mapM function) (rights.mapM other)
      fun states => List.Forall₂ (Result states) := by
  induction lefts generalizing rights states with
  | nil =>
      cases related
      exact pure .nil
  | cons first lefts hypothesis =>
      cases related with
      | cons head tail =>
          rw [List.mapM_cons, List.mapM_cons]
          refine (each states first _ head).bind fun middle result otherResult _ reached found => ?_
          refine (hypothesis (stable.list reached tail)).bind
            fun last results others _ reachedLast rest => ?_
          exact pure (.cons (stableResult reachedLast found) rest)

/-- Visiting two pairs of lists side by side corresponds where each visit of two pairs does. -/
theorem visit2 {ε ζ : Type} {Element : σ × τ → α → β → Prop} {Other : σ × τ → γ → δ → Prop}
    {Result : σ × τ → ε → ζ → Prop} {function : α → γ → Act σ ε} {other : β → δ → Act τ ζ}
    (stable : bridge.Stable Element) (stableOther : bridge.Stable Other)
    (stableResult : bridge.Stable Result)
    (each : ∀ states first second third fourth, Element states first second →
      Other states third fourth →
        bridge.Corresponds states (function first third) (other second fourth) Result)
    {lefts : List α} {rights : List β} {others : List γ} {otherRights : List δ} {states : σ × τ}
    (related : List.Forall₂ (Element states) lefts rights)
    (relatedOthers : List.Forall₂ (Other states) others otherRights)
    (counted : lefts.length = others.length) (countedRight : rights.length = otherRights.length) :
    bridge.Corresponds states (visit2 function lefts others counted)
      (TensorLogic.visit2 other rights otherRights countedRight)
      fun states results others => List.Forall₂ (Result states) results.1 others.1 := by
  induction lefts generalizing rights others otherRights states with
  | nil =>
      cases related
      cases others with
      | nil =>
          cases relatedOthers
          exact pure .nil
      | cons => cases counted
  | cons first lefts hypothesis =>
      cases related with
      | cons head tail =>
          cases relatedOthers with
          | nil => cases counted
          | cons headOther tailOther =>
              refine (each states first _ _ _ head headOther).bind
                fun middle result otherResult _ reached found => ?_
              refine (hypothesis (stable.list reached tail) (stableOther.list reached tailOther)
                (Nat.succ.inj counted) (Nat.succ.inj countedRight)).bind
                fun last results others _ reachedLast rest => ?_
              exact pure (.cons (stableResult reachedLast found) rest)

/-- The two sides announce the same. -/
theorem announce [HasJournal σ] [HasJournal τ]
    (keeps : ∀ event states, bridge.Valid states →
      bridge.Valid (HasJournal.note event states.1, HasJournal.note event states.2) ∧
        bridge.Reaches states (HasJournal.note event states.1, HasJournal.note event states.2))
    (event : Event) {Related : σ × τ → Unit → Unit → Prop}
    (related : ∀ states, Related states () ()) :
    bridge.Corresponds states (announce event) (TensorLogic.announce event) Related := by
  intro valid
  obtain ⟨validAfter, reached⟩ := keeps event states valid
  exact ⟨validAfter, reached, .ok (related _)⟩

end Corresponds

end Bridge

/-- A traversal of which every call succeeds gives results that correspond to the members. -/
theorem exists_mapM_ok {function : α → Except Fault β} {Relation : α → β → Prop} {members : List α}
    (each : ∀ member ∈ members, ∃ result, function member = .ok result ∧ Relation member result) :
    ∃ results, members.mapM function = .ok results ∧ List.Forall₂ Relation members results := by
  induction members with
  | nil => exact ⟨[], rfl, .nil⟩
  | cons member members hypothesis =>
      obtain ⟨result, isResult, related⟩ := each member List.mem_cons_self
      obtain ⟨results, areResults, allRelated⟩ :=
        hypothesis fun other inside => each other (List.mem_cons_of_mem _ inside)
      refine ⟨result :: results, ?_, .cons related allRelated⟩
      rw [List.mapM_cons, isResult, areResults]
      rfl

end TensorLogic
