/-
Module: TensorLogic.Proofs.Contraction.Labels
Purpose: Labels that are compared by `==` behave like the keys of the classes that they fall into.
Main exports: Contraction.Tells, Contraction.keys_ordered, Contraction.keys_touch, Contraction.Sized,
  Contraction.exists_dimensionsOf
-/
import TensorLogic.Contraction.Result
import TensorLogic.Proofs.Contraction.Mention

namespace TensorLogic.Contraction

variable {V L K : Type} [AxisLabel L]

/-- Labels in use are told apart by their keys. -/
def Tells (key : L → K) (used : L → Prop) : Prop :=
  ∀ left right, used left → used right → ((left == right) = true ↔ key left = key right)

section

variable {key : L → K} {used : L → Prop}

omit [AxisLabel L] in
/-- Labels that are kept by their keys have the keys that are kept. -/
theorem keys_filter {labels : List L} {keep : L → Bool} (wanted : K → Bool)
    (agree : ∀ label ∈ labels, keep label = wanted (key label)) :
    (labels.filter keep).map key = (labels.map key).filter wanted := by
  rw [List.filter_map]
  exact congrArg (List.map key) (List.filter_congr agree)

/-- Lists of labels in use are equal exactly when their keys are. -/
theorem beq_iff_keys (tells : Tells key used) {lefts rights : List L}
    (usesLeft : ∀ label ∈ lefts, used label) (usesRight : ∀ label ∈ rights, used label) :
    (lefts == rights) = true ↔ lefts.map key = rights.map key := by
  induction lefts generalizing rights with
  | nil => cases rights <;> simp
  | cons left lefts hypothesis =>
      cases rights with
      | nil => simp
      | cons right rights =>
          have rest := hypothesis (fun other inside => usesLeft other (List.mem_cons_of_mem _ inside))
            (fun other inside => usesRight other (List.mem_cons_of_mem _ inside))
          rw [List.cons_beq_cons, Bool.and_eq_true, rest, List.map_cons, List.map_cons,
            List.cons.injEq]
          exact and_congr (tells left right (usesLeft left List.mem_cons_self)
            (usesRight right List.mem_cons_self)) Iff.rfl

variable [DecidableEq K] (tells : Tells key used)

include tells

/-- Comparing two labels in use compares their keys. -/
theorem beq_eq_decide {left right : L} (usesLeft : used left) (usesRight : used right) :
    (left == right) = decide (key left = key right) := by
  rw [Bool.eq_iff_iff, decide_eq_true_iff]
  exact tells left right usesLeft usesRight

/-- Looking for a label in use among others looks for its key. -/
theorem elem_eq_decide {labels : List L} (uses : ∀ label ∈ labels, used label) {label : L}
    (usesLabel : used label) : labels.elem label = decide (key label ∈ labels.map key) := by
  induction labels with
  | nil => rfl
  | cons first labels hypothesis =>
      have rest := hypothesis fun other inside => uses other (List.mem_cons_of_mem _ inside)
      rw [List.elem_cons, rest, beq_eq_decide tells usesLabel (uses first List.mem_cons_self)]
      by_cases same : key label = key first
      · simp [same]
      · simp [same]

theorem nodup_iff_allDifferent {labels : List L} (uses : ∀ label ∈ labels, used label) :
    allDifferent labels = true ↔ (labels.map key).Nodup := by
  induction labels with
  | nil => simp [allDifferent]
  | cons first labels hypothesis =>
      have usesRest : ∀ label ∈ labels, used label := fun other inside =>
        uses other (List.mem_cons_of_mem _ inside)
      rw [allDifferent, Bool.and_eq_true, hypothesis usesRest, List.map_cons, List.nodup_cons,
        elem_eq_decide tells usesRest (uses first List.mem_cons_self)]
      simp

/-- The place of a label in use is the place of its key. -/
theorem idxOf_eq {labels : List L} (uses : ∀ label ∈ labels, used label) {label : L}
    (usesLabel : used label) : labels.idxOf label = (labels.map key).idxOf (key label) := by
  induction labels with
  | nil => rfl
  | cons first labels hypothesis =>
      have rest := hypothesis fun other inside => uses other (List.mem_cons_of_mem _ inside)
      rw [List.idxOf_cons, rest, List.map_cons, List.idxOf_cons,
        beq_eq_decide tells (uses first List.mem_cons_self) usesLabel]
      rfl

/-! ## The order of the labels -/

/-- Ordering labels filters the keys of the order. -/
theorem keys_ordered {order labels : List L} (usesOrder : ∀ label ∈ order, used label)
    (uses : ∀ label ∈ labels, used label) :
    (ordered order labels).map key =
      (order.map key).filter fun other => decide (other ∈ labels.map key) := by
  apply keys_filter
  intro label inside
  exact elem_eq_decide tells uses (usesOrder label inside)

/-- Mentioning a label takes its key out of the order and puts it at the end. -/
theorem keys_mention {order : List L} (uses : ∀ label ∈ order, used label) {label : L}
    (usesLabel : used label) :
    (mention order label).map key =
      (order.map key).filter (fun other => decide (other ≠ key label)) ++ [key label] := by
  have kept : (order.filter fun other => !(other == label)).map key =
      (order.map key).filter fun other => decide (other ≠ key label) := by
    apply keys_filter
    intro other inside
    rw [beq_eq_decide tells (uses other inside) usesLabel]
    simp
  unfold mention
  rw [List.map_append, kept]
  rfl

omit [DecidableEq K] tells in
theorem used_mention {order : List L} (uses : ∀ label ∈ order, used label) {label : L}
    (usesLabel : used label) : ∀ other ∈ mention order label, used other := by
  intro other inside
  rcases List.mem_append.1 inside with earlier | last
  · exact uses other (List.mem_filter.1 earlier).1
  · rw [List.mem_singleton.1 last]
    exact usesLabel

omit [DecidableEq K] tells in
theorem used_touch {order labels : List L} (usesOrder : ∀ label ∈ order, used label)
    (uses : ∀ label ∈ labels, used label) : ∀ other ∈ touch order labels, used other := by
  induction labels generalizing order with
  | nil => exact usesOrder
  | cons label labels hypothesis =>
      exact hypothesis (used_mention usesOrder (uses label List.mem_cons_self))
        fun other inside => uses other (List.mem_cons_of_mem _ inside)

/-- Labels that are mentioned come last, as they are given; all others stay in their order. -/
theorem keys_touch {order labels : List L} (usesOrder : ∀ label ∈ order, used label)
    (uses : ∀ label ∈ labels, used label) (different : (labels.map key).Nodup) :
    (touch order labels).map key =
      (order.map key).filter (fun other => decide (other ∉ labels.map key)) ++ labels.map key := by
  have areDifferent : allDifferent labels = true := (nodup_iff_allDifferent tells uses).2 different
  have stay : (order.filter fun other => !labels.elem other).map key =
      (order.map key).filter fun other => decide (other ∉ labels.map key) := by
    apply keys_filter
    intro other inside
    rw [elem_eq_decide tells uses (usesOrder other inside), decide_not]
  rw [touch_eq, lasts_of_allDifferent areDifferent, List.map_append, stay]

theorem mem_keys_mention {order : List L} (uses : ∀ label ∈ order, used label) {label : L}
    (usesLabel : used label) (other : K) :
    other ∈ (mention order label).map key ↔ other ∈ order.map key ∨ other = key label := by
  rw [keys_mention tells uses usesLabel, List.mem_append, List.mem_filter, decide_eq_true_iff,
    List.mem_singleton]
  by_cases same : other = key label
  · simp [same]
  · simp [same]

theorem nodup_keys_mention {order : List L} (uses : ∀ label ∈ order, used label) {label : L}
    (usesLabel : used label) (different : (order.map key).Nodup) :
    ((mention order label).map key).Nodup := by
  rw [keys_mention tells uses usesLabel, List.nodup_append]
  refine ⟨different.filter _, by simp, ?_⟩
  intro other earlier last isLast
  rw [List.mem_singleton.1 isLast]
  exact of_decide_eq_true (List.mem_filter.1 earlier).2

/-- Touching labels adds their keys to those of the order, and removes none. -/
theorem mem_keys_touch {order labels : List L} (usesOrder : ∀ label ∈ order, used label)
    (uses : ∀ label ∈ labels, used label) (other : K) :
    other ∈ (touch order labels).map key ↔ other ∈ order.map key ∨ other ∈ labels.map key := by
  induction labels generalizing order with
  | nil => simp [touch]
  | cons label labels hypothesis =>
      have usesLabel := uses label List.mem_cons_self
      have later := hypothesis (used_mention usesOrder usesLabel)
        fun other inside => uses other (List.mem_cons_of_mem _ inside)
      rw [List.map_cons, List.mem_cons, ← or_assoc, ← mem_keys_mention tells usesOrder usesLabel]
      exact later

/-- Touching labels does not make a key occur twice. -/
theorem nodup_keys_touch {order labels : List L} (usesOrder : ∀ label ∈ order, used label)
    (uses : ∀ label ∈ labels, used label) (different : (order.map key).Nodup) :
    ((touch order labels).map key).Nodup := by
  induction labels generalizing order with
  | nil => exact different
  | cons label labels hypothesis =>
      have usesLabel := uses label List.mem_cons_self
      exact hypothesis (used_mention usesOrder usesLabel)
        (fun other inside => uses other (List.mem_cons_of_mem _ inside))
        (nodup_keys_mention tells usesOrder usesLabel different)

omit [DecidableEq K] tells in
/-- Labels may be touched in two goes. -/
theorem touch_append (order first second : List L) :
    touch order (first ++ second) = touch (touch order first) second := List.foldl_append

end

/-! ## The dimensions of labels -/

section

variable {key : L → K} {used : L → Prop} (tells : Tells key used) {dim : K → Nat}

/-- Labels with their dimensions are sized when labels with one key have one dimension. -/
def Sized (used : L → Prop) (key : L → K) (dim : K → Nat) (dimensions : Dimensions L) : Prop :=
  ∀ pair ∈ dimensions, used pair.1 ∧ pair.2.value = dim (key pair.1)

include tells

/-- What is looked up for a label is the dimension of its key. -/
theorem value_of_lookup {dimensions : Dimensions L} (sized : Sized used key dim dimensions) {label : L}
    (usesLabel : used label) {dimension : Count} (found : dimensions.lookup label = some dimension) :
    dimension.value = dim (key label) := by
  induction dimensions with
  | nil => cases found
  | cons pair dimensions hypothesis =>
      obtain ⟨usesFirst, isFirst⟩ := sized pair List.mem_cons_self
      rw [List.lookup_cons] at found
      cases same : label == pair.1 with
      | true =>
          rw [same] at found
          rw [← Option.some.inj found, isFirst, (tells label pair.1 usesLabel usesFirst).1 same]
      | false =>
          rw [same] at found
          exact hypothesis (fun other inside => sized other (List.mem_cons_of_mem _ inside)) found

/-- A label whose key occurs has a dimension. -/
theorem isSome_lookup {dimensions : Dimensions L} (sized : Sized used key dim dimensions) {label : L}
    (usesLabel : used label) (occurs : key label ∈ dimensions.map fun pair => key pair.1) :
    ∃ dimension, dimensions.lookup label = some dimension := by
  induction dimensions with
  | nil => cases occurs
  | cons pair dimensions hypothesis =>
      have usesFirst := (sized pair List.mem_cons_self).1
      rw [List.lookup_cons]
      cases same : label == pair.1 with
      | true => exact ⟨pair.2, rfl⟩
      | false =>
          apply hypothesis fun other inside => sized other (List.mem_cons_of_mem _ inside)
          rcases List.mem_cons.1 occurs with first | later
          · rw [(tells label pair.1 usesLabel usesFirst).2 first] at same
            cases same
          · exact later

/-- Labels with one key have one dimension. -/
theorem lookup_eq {dimensions : Dimensions L} (uses : ∀ pair ∈ dimensions, used pair.1)
    {label other : L} (usesLabel : used label) (usesOther : used other) (same : key label = key other) :
    dimensions.lookup label = dimensions.lookup other := by
  induction dimensions with
  | nil => rfl
  | cons pair dimensions hypothesis =>
      have usesFirst := uses pair List.mem_cons_self
      have alike : (label == pair.1) = (other == pair.1) := by
        rw [Bool.eq_iff_iff, tells label pair.1 usesLabel usesFirst,
          tells other pair.1 usesOther usesFirst, same]
      rw [List.lookup_cons, List.lookup_cons, alike,
        hypothesis fun other inside => uses other (List.mem_cons_of_mem _ inside)]

omit tells in
/-- A label is looked up in the first dimensions before the second. -/
theorem lookup_append (first second : Dimensions L) (label : L) :
    (first ++ second).lookup label = (first.lookup label).or (second.lookup label) := by
  induction first with
  | nil => rfl
  | cons pair first hypothesis =>
      rw [List.cons_append, List.lookup_cons, List.lookup_cons, hypothesis]
      cases label == pair.1 <;> rfl

/-- Labels that are used with one dimension each can all be used, and have the dimensions that are
given first. -/
theorem lookup_useLabels {start pairs : Dimensions L} (sizedStart : Sized used key dim start)
    (sized : Sized used key dim pairs) :
    ∃ dimensions, pairs.foldlM (fun dimensions (label, dimension) =>
        useLabel dimensions label dimension) start = .ok dimensions ∧
      ∀ label, used label → dimensions.lookup label = (start ++ pairs).lookup label := by
  induction pairs generalizing start with
  | nil => exact ⟨start, rfl, fun label _ => congrArg _ (List.append_nil start).symm⟩
  | cons pair pairs hypothesis =>
      obtain ⟨usesFirst, isFirst⟩ := sized pair List.mem_cons_self
      have sizedRest : Sized used key dim pairs := fun other inside =>
        sized other (List.mem_cons_of_mem _ inside)
      obtain ⟨label, dimension⟩ := pair
      cases known : start.lookup label with
      | none =>
          have step : useLabel start label dimension = .ok (start ++ [(label, dimension)]) := by
            rw [useLabel, known]
          have sizedNext : Sized used key dim (start ++ [(label, dimension)]) := by
            intro other inside
            rcases List.mem_append.1 inside with earlier | last
            · exact sizedStart other earlier
            · rw [List.mem_singleton.1 last]
              exact ⟨usesFirst, isFirst⟩
          obtain ⟨dimensions, folded, looked⟩ := hypothesis sizedNext sizedRest
          refine ⟨dimensions, ?_, ?_⟩
          · rw [List.foldlM_cons]
            dsimp only
            rw [step]
            exact folded
          · intro other usesOther
            rw [looked other usesOther, List.append_assoc]
            rfl
      | some first =>
          have isDimension := value_of_lookup tells sizedStart usesFirst known
          have step : useLabel start label dimension = .ok start := by
            rw [useLabel, known]
            exact if_pos (isDimension.trans isFirst.symm)
          obtain ⟨dimensions, folded, looked⟩ := hypothesis sizedStart sizedRest
          refine ⟨dimensions, ?_, ?_⟩
          · rw [List.foldlM_cons]
            dsimp only
            rw [step]
            exact folded
          · intro other usesOther
            rw [looked other usesOther, lookup_append, lookup_append, List.lookup_cons]
            cases same : other == label with
            | false => rfl
            | true =>
                have alike := (tells other label usesOther usesFirst).1 same
                rw [lookup_eq tells (fun pair inside => (sizedStart pair inside).1) usesOther usesFirst alike,
                  known]
                rfl

/-- The dimensions of entries whose labels are used with one dimension each are those given first. -/
theorem exists_dimensionsOf {entries : List (Entry V L)}
    (sized : Sized used key dim (entries.flatMap fun entry => entry.labels.zip entry.tensor.shape)) :
    ∃ dimensions, dimensionsOf entries = .ok dimensions ∧
      ∀ label, used label → dimensionOf dimensions label =
        dimensionOf (entries.flatMap fun entry => entry.labels.zip entry.tensor.shape) label := by
  have none : Sized used key dim ([] : Dimensions L) := fun _ inside => nomatch inside
  obtain ⟨dimensions, folded, looked⟩ := lookup_useLabels tells none sized
  refine ⟨dimensions, folded, fun label usesLabel => ?_⟩
  rw [dimensionOf, dimensionOf, looked label usesLabel]
  rfl

/-- In front of further dimensions, the dimension of a label that occurs is the one that is given
first. -/
theorem dimensionOf_append {first second : Dimensions L} (sized : Sized used key dim first) {label : L}
    (usesLabel : used label) (occurs : key label ∈ first.map fun pair => key pair.1) :
    dimensionOf (first ++ second) label = dimensionOf first label := by
  obtain ⟨dimension, found⟩ := isSome_lookup tells sized usesLabel occurs
  rw [dimensionOf, dimensionOf, lookup_append, found]
  rfl

/-- In dimensions that are sized, the one of a label that occurs there is the one of its key. -/
theorem value_dimensionOf {dimensions : Dimensions L} (sized : Sized used key dim dimensions)
    {label : L} (usesLabel : used label) (occurs : key label ∈ dimensions.map fun pair => key pair.1) :
    (dimensionOf dimensions label).value = dim (key label) := by
  obtain ⟨dimension, found⟩ := isSome_lookup tells sized usesLabel occurs
  have isDimension := value_of_lookup tells sized usesLabel found
  rw [dimensionOf, found]
  exact isDimension

/-- Among different labels, each has the dimension that it is listed with. -/
theorem dimensionOf_of_mem {dimensions : Dimensions L} (sized : Sized used key dim dimensions)
    (different : (dimensions.map fun pair => key pair.1).Nodup) {pair : L × Count}
    (inside : pair ∈ dimensions) {label : L} (usesLabel : used label)
    (same : key label = key pair.1) : dimensionOf dimensions label = pair.2 := by
  induction dimensions with
  | nil => cases inside
  | cons first dimensions hypothesis =>
      obtain ⟨absent, rest⟩ := List.nodup_cons.1 different
      have usesFirst := (sized first List.mem_cons_self).1
      rw [dimensionOf, List.lookup_cons]
      cases equal : label == first.1 with
      | true =>
          have isFirst := (tells label first.1 usesLabel usesFirst).1 equal
          rcases List.mem_cons.1 inside with rfl | later
          · rfl
          · exact (absent (List.mem_map.2 ⟨pair, later, same.symm.trans isFirst⟩)).elim
      | false =>
          rcases List.mem_cons.1 inside with rfl | later
          · rw [(tells label pair.1 usesLabel usesFirst).2 same] at equal
            cases equal
          · exact hypothesis (fun other among => sized other (List.mem_cons_of_mem _ among)) rest later

end

end TensorLogic.Contraction
