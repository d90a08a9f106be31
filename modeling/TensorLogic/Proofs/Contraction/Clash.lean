/-
Module: TensorLogic.Proofs.Contraction.Clash
Purpose: A label that is used with two dimensions is noticed at the latest when the second of the entries
  that use it so is multiplied, however far apart they are.
Main exports: Contraction.IsClash, Contraction.Timely, Contraction.accumulate_clashes
-/
import TensorLogic.Proofs.Contraction.Exact

namespace TensorLogic.Contraction

variable {σ V M L K : Type}

/-- A fault that says that a label is used with two dimensions. -/
def IsClash (fault : Fault) : Prop :=
  ∃ label first second, fault = .labelDimensions label first second

/-! ## Dimensions that do not agree -/

section

variable [AxisLabel L] {key : L → K} {used : L → Prop}

/-- A label that is used either has the dimension that it is used with, while all others keep theirs, or
it clashes. -/
theorem useLabel_cases (dimensions : Dimensions L) {label : L} (same : (label == label) = true)
    (dimension : Count) :
    (∃ next, useLabel dimensions label dimension = .ok next ∧
      (∃ first, next.lookup label = some first ∧ first.value = dimension.value) ∧
      (∀ other first, dimensions.lookup other = some first → next.lookup other = some first) ∧
      ∀ pair ∈ next, pair ∈ dimensions ∨ pair = (label, dimension)) ∨
    ∃ fault, useLabel dimensions label dimension = .error fault ∧ IsClash fault := by
  unfold useLabel
  cases known : dimensions.lookup label with
  | none =>
      refine .inl ⟨_, rfl, ⟨dimension, ?_, rfl⟩, ?_, ?_⟩
      · rw [lookup_append, known, List.lookup_cons, same]
        rfl
      · intro other first found
        rw [lookup_append, found]
        rfl
      · intro pair inside
        exact (List.mem_append.1 inside).imp_right List.mem_singleton.1
  | some first =>
      dsimp only
      by_cases agree : first.value = dimension.value
      · rw [if_pos agree]
        exact .inl ⟨_, rfl, ⟨first, known, agree⟩, fun _ _ found => found, fun _ inside => .inl inside⟩
      · rw [if_neg agree]
        exact .inr ⟨_, rfl, _, _, _, rfl⟩

variable (tells : Tells key used)

include tells

/-- Labels that are used one after the other either have the dimensions that they are used with, or some
label clashes. -/
theorem useLabels_cases {pairs : Dimensions L} (uses : ∀ pair ∈ pairs, used pair.1)
    (start : Dimensions L) :
    (∃ dimensions, pairs.foldlM (fun dimensions (label, dimension) =>
        useLabel dimensions label dimension) start = .ok dimensions ∧
      (∀ pair ∈ pairs, ∃ first, dimensions.lookup pair.1 = some first ∧
        first.value = pair.2.value) ∧
      (∀ other first, start.lookup other = some first → dimensions.lookup other = some first) ∧
      ∀ pair ∈ dimensions, pair ∈ start ∨ pair ∈ pairs) ∨
    ∃ fault, pairs.foldlM (fun dimensions (label, dimension) =>
        useLabel dimensions label dimension) start = .error fault ∧ IsClash fault := by
  induction pairs generalizing start with
  | nil => exact .inl ⟨start, rfl, nofun, fun _ _ found => found, fun _ inside => .inl inside⟩
  | cons pair pairs hypothesis =>
      have usesFirst := uses pair List.mem_cons_self
      have reflexive := (tells pair.1 pair.1 usesFirst usesFirst).2 rfl
      rw [List.foldlM_cons]
      dsimp only
      rcases useLabel_cases start reflexive pair.2 with
        ⟨next, step, ⟨first, found, isFirst⟩, keeps, listed⟩ | ⟨fault, step, isClash⟩
      · rw [step]
        rcases hypothesis (fun other inside => uses other (List.mem_cons_of_mem _ inside)) next with
          ⟨dimensions, folded, agree, keepsRest, listedRest⟩ | failed
        · refine .inl ⟨dimensions, folded, ?_, fun other earlier known =>
            keepsRest other earlier (keeps other earlier known), ?_⟩
          · intro other inside
            rcases List.mem_cons.1 inside with rfl | later
            · exact ⟨first, keepsRest _ _ found, isFirst⟩
            · exact agree other later
          · intro other inside
            rcases listedRest other inside with earlier | later
            · refine (listed other earlier).imp_right fun isPair => ?_
              rw [isPair]
              exact List.mem_cons_self
            · exact .inr (List.mem_cons_of_mem _ later)
        · exact .inr failed
      · rw [step]
        exact .inr ⟨fault, rfl, isClash⟩

/-- Entries that use a label with two dimensions have no common dimensions. -/
theorem dimensionsOf_clashes {entries : List (Entry V L)}
    (uses : ∀ entry ∈ entries, ∀ pair ∈ entry.outline, used pair.1) {left right : Entry V L}
    (isLeft : left ∈ entries) (isRight : right ∈ entries) {first second : L × Count}
    (inLeft : first ∈ left.outline) (inRight : second ∈ right.outline)
    (same : key first.1 = key second.1) (differ : first.2.value ≠ second.2.value) :
    ∃ fault, dimensionsOf entries = .error fault ∧ IsClash fault := by
  have usesAll : ∀ pair ∈ entries.flatMap Entry.outline, used pair.1 := by
    intro pair inside
    obtain ⟨entry, among, own⟩ := List.mem_flatMap.1 inside
    exact uses entry among pair own
  rcases useLabels_cases tells usesAll [] with ⟨dimensions, _, agree, _, listed⟩ | failed
  · obtain ⟨one, foundFirst, isFirst⟩ := agree first (List.mem_flatMap.2 ⟨left, isLeft, inLeft⟩)
    obtain ⟨other, foundSecond, isSecond⟩ :=
      agree second (List.mem_flatMap.2 ⟨right, isRight, inRight⟩)
    have usesListed : ∀ pair ∈ dimensions, used pair.1 := fun pair inside =>
      usesAll pair ((listed pair inside).resolve_left nofun)
    have alike := lookup_eq tells usesListed (uses left isLeft first inLeft)
      (uses right isRight second inRight) same
    rw [foundFirst, foundSecond, Option.some.injEq] at alike
    rw [← isFirst, ← isSecond, alike] at differ
    exact absurd rfl differ
  · exact failed

end

/-! ## The dimension that a label is used with first -/

section

variable [DecidableEq K]

/-- The dimension that a key is listed with first. -/
def firstDimension (key : L → K) (outline : Dimensions L) (own : K) : Nat :=
  ((outline.find? fun pair => key pair.1 = own).map fun pair => pair.2.value).getD 0

/-- Where a key is always listed with one dimension, that is the first one. -/
theorem firstDimension_of_agree {key : L → K} {outline : Dimensions L} {pair : L × Count}
    (inside : pair ∈ outline)
    (agree : ∀ other ∈ outline, key other.1 = key pair.1 → other.2.value = pair.2.value) :
    firstDimension key outline (key pair.1) = pair.2.value := by
  unfold firstDimension
  cases found : outline.find? fun other => key other.1 = key pair.1 with
  | none => exact absurd (decide_eq_true rfl) (List.find?_eq_none.1 found pair inside)
  | some other =>
      have satisfies := List.find?_some found
      exact agree other (List.mem_of_find?_eq_some found) (of_decide_eq_true satisfies)

/-- Among different keys, a key that was not listed before is listed with its dimension first. -/
theorem firstDimension_of_mem {key : L → K} {before outline after : Dimensions L}
    (different : (outline.map fun pair => key pair.1).Nodup) {pair : L × Count}
    (inside : pair ∈ outline) (fresh : key pair.1 ∉ before.map fun pair => key pair.1) :
    firstDimension key (before ++ (outline ++ after)) (key pair.1) = pair.2.value := by
  have none : before.find? (fun other => key other.1 = key pair.1) = none := by
    rw [List.find?_eq_none]
    intro other among same
    exact fresh (List.mem_map.2 ⟨other, among, of_decide_eq_true same⟩)
  have found : outline.find? (fun other => key other.1 = key pair.1) = some pair := by
    clear none fresh
    induction outline with
    | nil => cases inside
    | cons first outline hypothesis =>
        obtain ⟨absent, rest⟩ := List.nodup_cons.1 different
        rcases List.mem_cons.1 inside with rfl | later
        · exact List.find?_cons_of_pos (decide_eq_true rfl)
        · have differ : key first.1 ≠ key pair.1 := fun same =>
            absent (List.mem_map.2 ⟨pair, later, same.symm⟩)
          rw [List.find?_cons_of_neg (by simp [differ])]
          exact hypothesis rest later
  rw [firstDimension, List.find?_append, none, List.find?_append, found]
  rfl

/-- Only labels that are covered may have other dimensions than the given ones.  The labels of an entry
are covered behind it. -/
def Timely (key : L → K) (dim : K → Nat) : List K → List (Entry M L) → Prop
  | _, [] => True
  | covered, next :: rest =>
      (∀ pair ∈ next.outline, key pair.1 ∉ covered → pair.2.value = dim (key pair.1)) ∧
        Timely key dim (covered ++ next.keys key) rest

/-- Labels have the dimensions that they are used with first until they are used again. -/
theorem timely_firstDimension {key : L → K} {used : L → Prop} {entries : List (Entry M L)}
    (labelled : ∀ entry ∈ entries, ∃ own, entry.Proper used key own) (before : Dimensions L) :
    Timely key (firstDimension key (before ++ entries.flatMap Entry.outline))
      (before.map fun pair => key pair.1) entries := by
  induction entries generalizing before with
  | nil => trivial
  | cons next rest hypothesis =>
      obtain ⟨own, proper⟩ := labelled next List.mem_cons_self
      have later := hypothesis (fun entry inside => labelled entry (List.mem_cons_of_mem _ inside))
        (before ++ next.outline)
      rw [List.map_append, proper.keys_outline, List.append_assoc] at later
      refine ⟨fun pair inside fresh => ?_, later⟩
      have different : (next.outline.map fun pair => key pair.1).Nodup := by
        rw [proper.keys_outline]
        exact proper.different
      exact (firstDimension_of_mem different inside fresh).symm

end

/-- An entry with different labels, one for each axis, is proper for the dimensions that they are listed
with. -/
theorem Entry.proper_of_outline {used : L → Prop} {key : L → K} {dim : K → Nat} {entry : Entry M L}
    (uses : ∀ label ∈ entry.labels, used label) (different : (entry.keys key).Nodup)
    (counted : entry.labels.length = entry.tensor.shape.length)
    (agree : ∀ pair ∈ entry.outline, pair.2.value = dim (key pair.1)) :
    entry.Proper used key dim := by
  refine ⟨uses, different, ?_⟩
  have areLabels : entry.outline.map Prod.fst = entry.labels := List.map_fst_zip (Nat.le_of_eq counted)
  have isShape : entry.outline.map Prod.snd = entry.tensor.shape :=
    List.map_snd_zip (Nat.le_of_eq counted.symm)
  calc entry.tensor.shape.values
      = entry.outline.map fun pair => pair.2.value := by
        rw [← isShape, Shape.values, List.map_map]
        rfl
    _ = entry.outline.map fun pair => dim (key pair.1) := List.map_congr_left agree
    _ = (entry.keys key).map dim := by
        rw [Entry.keys, ← areLabels, List.map_map, List.map_map]
        rfl

/-- Which dimensions an entry is proper for is decided on its own labels. -/
theorem Entry.Proper.of_agree {used : L → Prop} {key : L → K} {own dim : K → Nat} {entry : Entry M L}
    (proper : entry.Proper used key own) (agree : ∀ other ∈ entry.keys key, own other = dim other) :
    entry.Proper used key dim :=
  ⟨proper.uses, proper.different, proper.isShape.trans (List.map_congr_left agree)⟩

/-- An entry that is labelled with its own dimensions is labelled with any that agree with its outline. -/
theorem Entry.Proper.of_outline {used : L → Prop} {key : L → K} {own dim : K → Nat}
    {entry : Entry M L} (proper : entry.Proper used key own)
    (agree : ∀ pair ∈ entry.outline, pair.2.value = dim (key pair.1)) :
    entry.Proper used key dim :=
  Entry.proper_of_outline proper.uses proper.different proper.length_eq agree

/-- An entry with different labels, one for each axis, has dimensions for which it is proper. -/
theorem Entry.exists_proper [DecidableEq K] {used : L → Prop} {key : L → K} {entry : Entry M L}
    (uses : ∀ label ∈ entry.labels, used label) (different : (entry.keys key).Nodup)
    (counted : entry.labels.length = entry.tensor.shape.length) :
    ∃ own, entry.Proper used key own := by
  refine ⟨firstDimension key entry.outline,
    Entry.proper_of_outline uses different counted fun pair inside => ?_⟩
  have areLabels : entry.outline.map Prod.fst = entry.labels := List.map_fst_zip (Nat.le_of_eq counted)
  have differentPairs : (entry.outline.map fun pair => key pair.1).Nodup := by
    rw [Entry.keys, ← areLabels, List.map_map] at different
    exact different
  have found : firstDimension key ([] ++ (entry.outline ++ [])) (key pair.1) = pair.2.value :=
    firstDimension_of_mem differentPairs inside List.not_mem_nil
  rw [List.append_nil] at found
  exact found.symm

/-- Entries that were all added have dimensions for which they are proper. -/
theorem exists_proper_of_addAll [AxisLabel L] [DecidableEq K] {key : L → K}
    {contraction added : Contraction σ V L} {entries : List (Entry V L)} {output : List L}
    (isAdded : contraction.addAll entries = .ok added) (tells : Tells key (InUse entries output)) :
    ∀ entry ∈ entries, ∃ own, entry.Proper (InUse entries output) key own := by
  intro entry inside
  obtain ⟨counted, different⟩ := fit_of_addAll isAdded entry inside
  have uses : ∀ label ∈ entry.labels, InUse entries output label := fun label own =>
    .inl (List.mem_flatMap.2 ⟨entry, inside, own⟩)
  exact Entry.exists_proper uses ((nodup_iff_allDifferent tells uses).1 different) counted

/-- Two entries that use a label with different dimensions have no common dimensions. -/
theorem Entry.Proper.dimensionsOf_clashes [AxisLabel L] {used : L → Prop} {key : L → K}
    {dim own : K → Nat} (tells : Tells key used) {left right : Entry V L}
    (properLeft : left.Proper used key dim) (properRight : right.Proper used key own) {shared : K}
    (inLeft : shared ∈ left.keys key) (inRight : shared ∈ right.keys key)
    (differ : own shared ≠ dim shared) :
    ∃ fault, dimensionsOf [left, right] = .error fault ∧ IsClash fault := by
  rw [← properLeft.keys_outline] at inLeft
  rw [← properRight.keys_outline] at inRight
  obtain ⟨first, amongLeft, isFirst⟩ := List.mem_map.1 inLeft
  obtain ⟨second, amongRight, isSecond⟩ := List.mem_map.1 inRight
  have differPairs : first.2.value ≠ second.2.value := by
    rw [(properLeft.sized first amongLeft).2, (properRight.sized second amongRight).2, isFirst, isSecond]
    exact differ.symm
  refine Contraction.dimensionsOf_clashes tells ?_ List.mem_cons_self
    (List.mem_cons_of_mem _ List.mem_cons_self) amongLeft amongRight (isFirst.trans isSecond.symm)
    differPairs
  intro entry among pair inside
  rcases List.mem_pair.1 among with rfl | rfl
  · exact (properLeft.sized pair inside).1
  · exact (properRight.sized pair inside).1

/-! ## A computation that comes to a clash -/

/-- A computation leaves the state as it is, and fails: for a clash, or for want of room. -/
def Clashes [Platform] {α : Type} (room : Prop) (action : Act σ α) (state : σ) : Prop :=
  ∃ fault, action.runOn state = (.error fault, state) ∧ (IsClash fault ∨ NoRoom fault ∧ ¬room)

section

variable {α β : Type} {room further : Prop} {result : α} {action : Act σ α} {next : α → Act σ β}
  {state : σ}

/-- A clash stays one where more room is asked for. -/
theorem Clashes.mono [Platform] (clashes : Clashes room action state) (stronger : further → room) :
    Clashes further action state := by
  obtain ⟨fault, ran, cause⟩ := clashes
  exact ⟨fault, ran, cause.imp_right fun short => ⟨short.1, fun enough => short.2 (stronger enough)⟩⟩

/-- What comes after a clash does not matter. -/
theorem Clashes.bind [Platform] (clashes : Clashes room action state) (next : α → Act σ β) :
    Clashes room (action >>= next) state := by
  obtain ⟨fault, ran, cause⟩ := clashes
  exact ⟨fault, Act.runOn_bind_error ran next, cause⟩

/-- Where there is room for the first step, the next one may clash. -/
theorem Gives.bindClashes [Platform] (gives : Gives room result action state)
    (clashes : Clashes further (next result) state) :
    Clashes (room ∧ further) (action >>= next) state := by
  obtain ⟨outcome, ran, provided⟩ := gives
  obtain ⟨fault, ranNext, cause⟩ := clashes
  cases provided with
  | crowded short isShort =>
      exact ⟨_, Act.runOn_bind_error ran next, .inr ⟨isShort, fun both => short both.1⟩⟩
  | given _ =>
      refine ⟨fault, (Act.runOn_bind_ok ran next).trans ranNext, cause.imp_right fun short => ?_⟩
      exact ⟨short.1, fun both => short.2 both.2⟩

end

/-! ## Contractions with a clash -/

section

variable [AxisLabel L] [DecidableEq K] {used : L → Prop} {key : L → K} {dim : K → Nat}
  {arithmetic : Arithmetic M} {embed : M → V} {sum : List V → Act σ V} {product : V → V → Act σ V}
  {order : List L}

namespace Sums

variable (tells : Tells key used) {covered gone : List K} {value : (K → Nat) → M}
  {entry : Entry M L}

include tells

/-- An entry that uses a label of the accumulated one with another dimension clashes with it. -/
theorem step_clashes [Platform] (usesOrder : ∀ label ∈ order, used label)
    (differentOrder : (order.map key).Nodup) (needed : List L)
    (sums : Sums used key dim arithmetic order covered value gone entry)
    {next : Entry M L} {own : K → Nat} (proper : next.Proper used key own)
    (known : ∀ own ∈ next.keys key, own ∈ order.map key) {pair : L × Count}
    (inside : pair ∈ next.outline) (shared : key pair.1 ∈ entry.keys key)
    (differ : pair.2.value ≠ dim (key pair.1)) (state : σ) :
    Clashes (RoomStep Shape.PassesSpread order needed entry.outline next.outline)
      (step sum product order needed (entry.image embed) (next.image embed)) state := by
  obtain ⟨arranged, arranges, properArranged, arrangedOutline, arrangedKeys, _⟩ :=
    proper.exists_arrange tells arithmetic.zero embed usesOrder differentOrder known
  have pairKey : key pair.1 ∈ next.keys key := by
    rw [← proper.keys_outline]
    exact List.mem_map_of_mem inside
  have inRight : key pair.1 ∈ arranged.keys key := by
    rw [arrangedKeys, List.mem_filter, decide_eq_true_iff]
    exact ⟨known _ pairKey, pairKey⟩
  have failed : ∃ fault, dimensionsOf [entry.image embed, arranged.image embed] = .error fault ∧
      IsClash fault := by
    apply (sums.proper.image embed).dimensionsOf_clashes tells (properArranged.image embed) shared inRight
    rwa [← (proper.sized pair inside).2]
  have joins : Clashes True (join order product (entry.image embed) (arranged.image embed)) state := by
    obtain ⟨fault, isFault, isClash⟩ := failed
    refine ⟨fault, ?_, .inl isClash⟩
    unfold join
    rw [isFault]
    rfl
  exact ((Gives.lift arranges).bindClashes (joins.bind _)).mono fun enough => ⟨enough.1, trivial⟩

/-- Among entries with a clash, one comes that clashes with the accumulated entry: a label that is still
to come is not eliminated. -/
theorem combine_clashes [Platform] (computes : Computes arithmetic embed sum product) {output : List L}
    (usesOrder : ∀ label ∈ order, used label) (differentOrder : (order.map key).Nodup)
    (usesOutput : ∀ label ∈ output, used label) {entries : List (Entry M L)}
    (labelled : ∀ next ∈ entries, ∃ own, next.Proper used key own)
    (known : ∀ next ∈ entries, ∀ own ∈ next.keys key, own ∈ order.map key)
    (timely : Timely key dim covered entries)
    (clash : ¬∀ next ∈ entries, next.Proper used key dim)
    (sums : Sums used key dim arithmetic order covered value gone entry)
    (unwanted : ∀ own ∈ gone, own ∉ (neededBy entries output).map key) (state : σ) :
    Clashes (RoomFor Shape.PassesSpread order output entry.outline (entries.map Entry.outline))
      (combine sum product order output (entry.image embed) (entries.map (Entry.image embed)))
      state := by
  induction entries generalizing entry covered value gone with
  | nil => exact absurd nofun clash
  | cons next entries hypothesis =>
      obtain ⟨own, properOwn⟩ := labelled next List.mem_cons_self
      have labelledRest := fun other inside => labelled other (List.mem_cons_of_mem next inside)
      have knownNext := known next List.mem_cons_self
      have knownRest := fun other inside => known other (List.mem_cons_of_mem next inside)
      have usesNeeded : ∀ label ∈ neededBy entries output, used label :=
        uses_neededBy (fun other inside => (labelledRest other inside).elim fun _ proper => proper.uses)
          usesOutput
      have outlined : (entries.map Entry.outline).flatMap Dimensions.labels ++ output =
          neededBy entries output :=
        neededBy_outline (fun other inside =>
          (labelledRest other inside).elim fun _ proper => proper.labels_outline) output
      have keysNeeded : (neededBy (next :: entries) output).map key =
          next.keys key ++ (neededBy entries output).map key := by
        rw [keys_neededBy, keys_neededBy, List.flatMap_cons, List.append_assoc]
      rw [keysNeeded] at unwanted
      rw [List.map_cons, List.map_cons, combine_cons, neededBy_image, roomFor_cons, outlined]
      by_cases differing : ∃ pair ∈ next.outline, pair.2.value ≠ dim (key pair.1)
      · obtain ⟨pair, inside, differ⟩ := differing
        have among : key pair.1 ∈ next.keys key := by
          rw [← properOwn.keys_outline]
          exact List.mem_map_of_mem inside
        have isCovered : key pair.1 ∈ covered := by
          by_contra fresh
          exact differ (timely.1 pair inside fresh)
        have shared : key pair.1 ∈ entry.keys key :=
          ((sums.covers _).1 isCovered).resolve_left fun isGone =>
            unwanted _ isGone (List.mem_append_left _ among)
        exact ((sums.step_clashes tells usesOrder differentOrder _ properOwn knownNext inside shared
          differ state).bind _).mono And.left
      · have proper : next.Proper used key dim := properOwn.of_outline fun pair inside => by
          by_contra differ
          exact differing ⟨pair, inside, differ⟩
        obtain ⟨reduced, further, steps, isOutline, _, unwantedNext, holdsNext⟩ :=
          sums.runOn_step tells computes usesOrder differentOrder usesNeeded proper knownNext unwanted
            state
        have clashRest : ¬∀ other ∈ entries, other.Proper used key dim := fun propers =>
          clash (List.forall_mem_cons.2 ⟨proper, propers⟩)
        rw [← isOutline]
        exact steps.bindClashes
          (hypothesis labelledRest knownRest timely.2 clashRest holdsNext unwantedNext)

end Sums

/-- A contraction of entries that use a label with two dimensions fails, for a clash or for want of
room. -/
theorem accumulate_clashes [Platform] {entries : List (Entry M L)} {output : List L}
    (tells : Tells key (InUse entries output))
    (labelled : ∀ entry ∈ entries, ∃ own, entry.Proper (InUse entries output) key own)
    (computes : Computes arithmetic embed sum product)
    (clash : ∀ dim, ¬∀ entry ∈ entries, entry.Proper (InUse entries output) key dim) (state : σ) :
    Clashes (Roomy Shape.PassesSpread output (entries.map Entry.outline))
      (accumulate sum product (touch (Suited.added entries) output) output
        (entries.map (Entry.image embed))) state := by
  have usesOrder : ∀ label ∈ touch (Suited.added entries) output, InUse entries output label :=
    Suited.uses_order
  have differentOrder := Suited.nodup_keys_order tells
  have known : ∀ entry ∈ entries, ∀ own ∈ entry.keys key,
      own ∈ (touch (Suited.added entries) output).map key := fun _ inside _ =>
    Suited.mem_keys_order tells inside
  have timely := timely_firstDimension labelled []
  obtain ⟨dim, isDim⟩ : ∃ dim, dim = firstDimension key ([] ++ entries.flatMap Entry.outline) := ⟨_, rfl⟩
  rw [← isDim] at timely
  have clashes := clash dim
  cases entries with
  | nil => exact absurd nofun clashes
  | cons first rest =>
      obtain ⟨own, properOwn⟩ := labelled first List.mem_cons_self
      have proper := properOwn.of_outline fun pair inside => timely.1 pair inside nofun
      have usesOutput : ∀ label ∈ output, InUse (first :: rest) output label :=
        fun _ inside => .inr inside
      have labelledRest := fun entry inside => labelled entry (List.mem_cons_of_mem first inside)
      have usesNeeded : ∀ label ∈ neededBy rest output, InUse (first :: rest) output label :=
        uses_neededBy (fun entry inside =>
          (labelledRest entry inside).elim fun _ proper => proper.uses) usesOutput
      have clashRest : ¬∀ entry ∈ rest, entry.Proper (InUse (first :: rest) output) key dim :=
        fun propers => clashes (List.forall_mem_cons.2 ⟨proper, propers⟩)
      obtain ⟨start, eliminated, starts, startOutline, _, startUnwanted, holdsStart⟩ :=
        Sums.runOn_firstStep tells computes usesOrder differentOrder usesNeeded proper
          (known first List.mem_cons_self) state
      have combines := holdsStart.combine_clashes tells computes usesOrder differentOrder usesOutput
        labelledRest (fun entry inside => known entry (List.mem_cons_of_mem _ inside)) timely.2
        clashRest startUnwanted state
      rw [startOutline] at combines
      have outlined := labels_outlines fun entry inside =>
        (labelled entry inside).elim fun _ proper => proper.labels_outline
      have needed := neededBy_outline (fun entry inside =>
        (labelledRest entry inside).elim fun _ proper => proper.labels_outline) output
      rw [List.map_cons, List.map_cons, accumulate, neededBy_image, Roomy, ← List.map_cons, outlined,
        needed]
      exact (starts.bindClashes combines).mono and_assoc.2

end

end TensorLogic.Contraction
