/-
Module: TensorLogic.Proofs.Contraction.Mention
Purpose: Labels that are mentioned one after the other stand in the order of their last mention.
Main exports: Contraction.lasts, Contraction.mem_lasts, Contraction.allDifferent_iff, Contraction.touch_eq,
  Contraction.LastMention, Contraction.exists_places
-/
import Mathlib.Data.List.Forall2
import TensorLogic.Contraction.Basic

namespace TensorLogic.Contraction

/-!
The order of the labels is kept up by taking each label that is mentioned out of its old place and putting it
at the end.  What comes of that can be said without any history: of all mentions, one added tensor after
another and along its axes, those are left that no later mention equals.

Labels are compared by `==` alone, and nothing has to be known about it.
-/

variable {V L : Type}

/-! ## Last occurrences -/

section

variable [BEq L] {α : Type}

theorem elem_eq_false_iff {label : L} {labels : List L} :
    labels.elem label = false ↔ ∀ other ∈ labels, (label == other) = false := by
  induction labels with
  | nil => simp
  | cons first labels hypothesis =>
      rw [List.elem_eq_contains, List.contains_cons, Bool.or_eq_false_iff, ← List.elem_eq_contains,
        hypothesis, List.forall_mem_cons]

/-- The members of a list whose labels do not occur any more further on. -/
def lasts (label : α → L) : List α → List α
  | [] => []
  | member :: members =>
      if (members.map label).elem (label member) then lasts label members
      else member :: lasts label members

variable {label : α → L} {members : List α}

/-- The members that are last by their label have the labels that are last. -/
theorem map_lasts (label : α → L) (members : List α) :
    (lasts label members).map label = lasts id (members.map label) := by
  induction members with
  | nil => rfl
  | cons member members hypothesis =>
      simp only [lasts, List.map_cons, List.map_id, id]
      split
      · exact hypothesis
      · rw [List.map_cons, hypothesis]

theorem sublist_lasts (label : α → L) (members : List α) : (lasts label members).Sublist members := by
  induction members with
  | nil => exact List.Sublist.refl _
  | cons member members hypothesis =>
      unfold lasts
      split
      · exact hypothesis.cons member
      · exact hypothesis.cons_cons member

/-- No label stands before an equal one. -/
theorem pairwise_lasts (label : α → L) (members : List α) :
    (lasts label members).Pairwise fun earlier later => (label earlier == label later) = false := by
  induction members with
  | nil => exact List.Pairwise.nil
  | cons member members hypothesis =>
      unfold lasts
      split
      · exact hypothesis
      · next absent =>
          have different := elem_eq_false_iff.1 (Bool.eq_false_iff.2 absent)
          refine hypothesis.cons fun later inside => ?_
          exact different _ (List.mem_map_of_mem ((sublist_lasts label members).subset inside))

/-- In a list that goes up, those members are kept that no higher one equals. -/
theorem mem_lasts {Before : α → α → Prop} (asymm : ∀ first second, Before first second → ¬Before second first)
    (upward : members.Pairwise Before) {member : α} :
    member ∈ lasts label members ↔
      member ∈ members ∧ ∀ other ∈ members, Before member other → (label member == label other) = false := by
  induction members with
  | nil => simp [lasts]
  | cons first members hypothesis =>
      obtain ⟨below, upwardRest⟩ := List.pairwise_cons.1 upward
      have rest := hypothesis upwardRest
      constructor
      · intro kept
        have notBefore (later : member ∈ members) : ¬Before member first :=
          asymm _ _ (below member later)
        unfold lasts at kept
        split at kept
        · obtain ⟨inside, different⟩ := rest.1 kept
          refine ⟨List.mem_cons_of_mem _ inside, List.forall_mem_cons.2 ⟨?_, different⟩⟩
          exact fun before => absurd before (notBefore inside)
        · next absent =>
            rcases List.mem_cons.1 kept with rfl | kept
            · have different := elem_eq_false_iff.1 (Bool.eq_false_iff.2 absent)
              refine ⟨List.mem_cons_self, List.forall_mem_cons.2 ⟨?_, ?_⟩⟩
              · exact fun before => absurd before (asymm _ _ before)
              · exact fun other inside _ => different _ (List.mem_map_of_mem inside)
            · obtain ⟨inside, different⟩ := rest.1 kept
              refine ⟨List.mem_cons_of_mem _ inside, List.forall_mem_cons.2 ⟨?_, different⟩⟩
              exact fun before => absurd before (notBefore inside)
      · rintro ⟨inside, different⟩
        have later := (List.forall_mem_cons.1 different).2
        unfold lasts
        rcases List.mem_cons.1 inside with rfl | inside
        · have absent : (members.map label).elem (label member) = false := by
            rw [elem_eq_false_iff, List.forall_mem_map]
            exact fun other among => later other among (below other among)
          rw [absent]
          exact List.mem_cons_self
        · split
          · exact rest.2 ⟨inside, later⟩
          · exact List.mem_cons_of_mem _ (rest.2 ⟨inside, later⟩)

end

section

variable [AxisLabel L]

/-- Labels are all different when none of them equals a later one. -/
theorem allDifferent_iff {labels : List L} :
    allDifferent labels = true ↔ labels.Pairwise fun earlier later => (earlier == later) = false := by
  induction labels with
  | nil => simp [allDifferent]
  | cons label labels hypothesis =>
      rw [allDifferent, Bool.and_eq_true, Bool.not_eq_true', elem_eq_false_iff, hypothesis,
        List.pairwise_cons]

/-- Where all labels differ, each of them is a last one. -/
theorem lasts_of_allDifferent {labels : List L} (different : allDifferent labels = true) :
    lasts id labels = labels := by
  induction labels with
  | nil => rfl
  | cons label labels hypothesis =>
      rw [allDifferent, Bool.and_eq_true, Bool.not_eq_true'] at different
      simp only [lasts, List.map_id, id, different.1, hypothesis different.2]
      rfl

/-- Mentioning labels keeps those in place that are not among them, and puts behind them the labels that are
mentioned, each where it is mentioned last. -/
theorem touch_eq (order labels : List L) :
    touch order labels = order.filter (fun other => !labels.elem other) ++ lasts id labels := by
  induction labels generalizing order with
  | nil => simp [touch, lasts]
  | cons label labels hypothesis =>
      have stays : (order.filter fun other => !(other == label)).filter (fun other => !labels.elem other) =
          order.filter fun other => !(label :: labels).elem other := by
        rw [List.filter_filter]
        apply List.filter_congr
        intro other _
        simp only [List.elem_eq_contains, List.contains_cons, Bool.not_or, Bool.and_comm]
      have last : [label].filter (fun other => !labels.elem other) ++ lasts id labels =
          lasts id (label :: labels) := by
        simp only [lasts, List.map_id, id, List.filter_singleton]
        cases labels.elem label with
        | true => rfl
        | false => rfl
      calc touch order (label :: labels)
          = touch (mention order label) labels := rfl
        _ = (mention order label).filter (fun other => !labels.elem other) ++ lasts id labels :=
            hypothesis _
        _ = _ := by rw [mention, List.filter_append, stays, List.append_assoc, last]

end

/-! ## Places -/

/-- A mention has a place: the number of the tensor whose labels it is among, and the axis that it is for. -/
abbrev Place := Nat × Nat

/-- One mention comes before another one, by the tensors, and among the labels of one tensor by the axes. -/
def Earlier (first second : Place) : Prop :=
  first.1 < second.1 ∨ first.1 = second.1 ∧ first.2 < second.2

/-- A label is mentioned at a place. -/
def Mentions (entries : List (Entry V L)) (place : Place) (label : L) : Prop :=
  ∃ entry, entries[place.1]? = some entry ∧ entry.labels[place.2]? = some label

/-- All mentions with their places. -/
def mentions (entries : List (Entry V L)) : List (Place × L) :=
  entries.zipIdx.flatMap fun (entry, number) =>
    entry.labels.zipIdx.map fun (label, axis) => ((number, axis), label)

/-- The mentions of some entries are listed with their places, all of them and nothing else. -/
theorem mem_mentions {entries : List (Entry V L)} {place : Place} {label : L} :
    (place, label) ∈ mentions entries ↔ Mentions entries place label := by
  rcases place with ⟨number, axis⟩
  simp only [mentions, Mentions, List.mem_flatMap, List.mem_map, Prod.exists, Prod.mk.injEq,
    List.mem_zipIdx_iff_getElem?]
  constructor
  · rintro ⟨entry, _, listed, own, _, labelled, ⟨rfl, rfl⟩, rfl⟩
    exact ⟨entry, listed, labelled⟩
  · rintro ⟨entry, listed, labelled⟩
    exact ⟨entry, number, listed, label, axis, labelled, ⟨rfl, rfl⟩, rfl⟩

/-- Without their places, mentions are the labels of the entries, one entry after the other. -/
theorem map_snd_mentions (entries : List (Entry V L)) :
    (mentions entries).map Prod.snd = entries.flatMap Entry.labels := by
  have labels (number : Nat) (entry : Entry V L) :
      (entry.labels.zipIdx.map fun (label, axis) => (((number, axis) : Place), label)).map Prod.snd =
        entry.labels := by
    rw [List.map_map]
    exact List.zipIdx_map_fst 0 entry.labels
  rw [mentions, List.map_flatMap]
  simp only [labels]
  conv_rhs => rw [← List.zipIdx_map_fst 0 entries, List.flatMap_map]

/-- Counting goes up. -/
theorem pairwise_zipIdx {α : Type} (members : List α) :
    members.zipIdx.Pairwise fun first second => first.2 < second.2 := by
  rw [← List.pairwise_map (R := (· < ·)), List.zipIdx_map_snd]
  exact List.pairwise_lt_range'

/-- Mentions are listed in the order of their places. -/
theorem pairwise_mentions (entries : List (Entry V L)) :
    (mentions entries).Pairwise fun first second => Earlier first.1 second.1 := by
  rw [mentions, List.pairwise_flatMap]
  constructor
  · rintro ⟨entry, number⟩ _
    rw [List.pairwise_map]
    exact (pairwise_zipIdx entry.labels).imp fun below => .inr ⟨rfl, below⟩
  · refine (pairwise_zipIdx entries).imp fun below first isFirst second isSecond => ?_
    obtain ⟨_, _, rfl⟩ := List.mem_map.1 isFirst
    obtain ⟨_, _, rfl⟩ := List.mem_map.1 isSecond
    exact .inl below

/-- No place is earlier than one that is earlier than it. -/
theorem Earlier.asymm {first second : Place} (earlier : Earlier first second) : ¬Earlier second first := by
  unfold Earlier at *
  omega

variable [AxisLabel L]

/-- A label is mentioned at a place, and no mention further on equals it. -/
structure LastMention (entries : List (Entry V L)) (place : Place) (label : L) : Prop where
  mentioned : Mentions entries place label
  last : ∀ later other, Earlier place later → Mentions entries later other → (label == other) = false

/-- What is last in the list of the mentions of a label is its last mention. -/
theorem mem_lasts_mentions {entries : List (Entry V L)} {place : Place} {label : L} :
    (place, label) ∈ lasts Prod.snd (mentions entries) ↔ LastMention entries place label := by
  rw [mem_lasts (fun _ _ => Earlier.asymm) (pairwise_mentions entries), mem_mentions]
  constructor
  · rintro ⟨mentioned, different⟩
    refine ⟨mentioned, fun later other earlier among => ?_⟩
    exact different (later, other) (mem_mentions.2 among) earlier
  · rintro ⟨mentioned, last⟩
    exact ⟨mentioned, fun later among earlier => last _ _ earlier (mem_mentions.1 among)⟩

/-- The labels of some tensors, in the order of their last mention. -/
theorem exists_places (entries : List (Entry V L)) :
    ∃ places : List Place, places.Pairwise Earlier ∧
      List.Forall₂ (LastMention entries) places (touch [] (entries.flatMap Entry.labels)) ∧
      ∀ place label, LastMention entries place label → place ∈ places := by
  have isOrder : touch [] (entries.flatMap Entry.labels) =
      (lasts Prod.snd (mentions entries)).map Prod.snd := by
    rw [touch_eq, map_lasts, map_snd_mentions]
    rfl
  refine ⟨(lasts Prod.snd (mentions entries)).map Prod.fst, ?_, ?_, fun place label last => ?_⟩
  · rw [List.pairwise_map]
    exact (pairwise_mentions entries).sublist (sublist_lasts _ _)
  · rw [isOrder, List.forall₂_map_left_iff, List.forall₂_map_right_iff, List.forall₂_same]
    exact fun mention kept => mem_lasts_mentions.1 kept
  · exact List.mem_map_of_mem (mem_lasts_mentions.2 last)

end TensorLogic.Contraction
