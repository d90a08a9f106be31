/-
Module: TensorLogic.Proofs.Contraction.Combine
Purpose: The accumulated entry of a contraction is a sum over the labels that were eliminated.
Main exports: Contraction.Sums, Contraction.Sums.runOn_eliminate, Contraction.Sums.runOn_join,
  Contraction.Sums.runOn_combine
-/
import TensorLogic.Proofs.Contraction.Accumulate
import TensorLogic.Proofs.Contraction.Steps

namespace TensorLogic.Contraction

variable {σ V M L K : Type}

section

variable [AxisLabel L] {used : L → Prop} {key : L → K} {dim : K → Nat}

omit [AxisLabel L] in
/-- What is needed later depends on the labels, and not on the elements. -/
theorem neededBy_image (embed : M → V) (entries : List (Entry M L)) (output : List L) :
    neededBy (entries.map (Entry.image embed)) output = neededBy entries output := by
  rw [neededBy, List.flatMap_map]
  rfl

omit [AxisLabel L] in
theorem labels_outlines {entries : List (Entry M L)}
    (listed : ∀ entry ∈ entries, entry.outline.labels = entry.labels) :
    (entries.map Entry.outline).flatMap Dimensions.labels = entries.flatMap Entry.labels := by
  rw [List.flatMap_map, List.flatMap_def, List.flatMap_def]
  apply congrArg
  exact List.map_congr_left listed

omit [AxisLabel L] in
/-- What is needed later can be read off the outlines. -/
theorem neededBy_outline {entries : List (Entry M L)}
    (listed : ∀ entry ∈ entries, entry.outline.labels = entry.labels) (output : List L) :
    (entries.map Entry.outline).flatMap Dimensions.labels ++ output = neededBy entries output := by
  rw [labels_outlines listed, neededBy]

omit [AxisLabel L] in
theorem uses_neededBy {entries : List (Entry M L)}
    (uses : ∀ entry ∈ entries, ∀ label ∈ entry.labels, used label) {output : List L}
    (usesOutput : ∀ label ∈ output, used label) : ∀ label ∈ neededBy entries output, used label := by
  intro label inside
  rcases List.mem_append.1 inside with later | last
  · obtain ⟨entry, among, own⟩ := List.mem_flatMap.1 later
    exact uses entry among label own
  · exact usesOutput label last

omit [AxisLabel L] in
/-- The keys that are needed later are those of the entries that come and of the output. -/
theorem keys_neededBy (key : L → K) (entries : List (Entry M L)) (output : List L) :
    (neededBy entries output).map key = entries.flatMap (Entry.keys key) ++ output.map key := by
  rw [neededBy, List.map_append, List.map_flatMap]
  rfl

end

/-- An entry holds the sums of a value over the keys that are gone.  The value may depend on the covered
keys: those that are gone, and those of the entry, which are in the order of all labels. -/
structure Sums [DecidableEq K] (used : L → Prop) (key : L → K) (dim : K → Nat)
    (arithmetic : Arithmetic M) (order : List L) (covered : List K) (value : (K → Nat) → M)
    (gone : List K) (entry : Entry M L) : Prop where
  proper : entry.Proper used key dim
  inOrder : entry.keys key = (order.map key).filter fun own => decide (own ∈ entry.keys key)
  different : gone.Nodup
  apart : ∀ own ∈ gone, own ∉ entry.keys key
  covers : ∀ own, own ∈ covered ↔ own ∈ gone ∨ own ∈ entry.keys key
  elements : ∀ place, Keeps dim (entry.keys key) place → entry.read arithmetic.zero key place =
    arithmetic.summed dim gone value place

namespace Sums

variable [AxisLabel L] [DecidableEq K] {used : L → Prop} {key : L → K} {dim : K → Nat}
  {arithmetic : Arithmetic M} {embed : M → V} {sum : List V → Act σ V} {product : V → V → Act σ V}
  {order : List L} {covered gone : List K} {value : (K → Nat) → M} {entry : Entry M L}

omit [AxisLabel L] in
/-- The keys of an accumulated product are among those of the order. -/
theorem known (sums : Sums used key dim arithmetic order covered value gone entry) :
    ∀ own ∈ entry.keys key, own ∈ order.map key := by
  intro own inside
  rw [sums.inOrder] at inside
  exact (List.mem_filter.1 inside).1

variable (tells : Tells key used)

include tells

variable (arithmetic embed) in
/-- An entry that is brought into the order of the labels holds its own elements, with nothing gone. -/
theorem exists_arrange [Platform] (usesOrder : ∀ label ∈ order, used label)
    (differentOrder : (order.map key).Nodup) (proper : entry.Proper used key dim)
    (known : ∀ own ∈ entry.keys key, own ∈ order.map key) :
    ∃ result,
      Provided (Room Shape.PassesSpread entry.outline (entry.outline.arranged order)) (result.image embed)
        (arrange order (entry.image embed)) ∧
      result.outline = entry.outline.arranged order ∧
      Sums used key dim arithmetic order (entry.keys key) (entry.read arithmetic.zero key) []
        result := by
  obtain ⟨result, isArranged, properResult, isOutline, arrangedKeys, elements⟩ :=
    proper.exists_arrange tells arithmetic.zero embed usesOrder differentOrder known
  have same : ∀ own, own ∈ result.keys key ↔ own ∈ entry.keys key := by
    intro own
    rw [arrangedKeys, List.mem_filter, decide_eq_true_iff]
    exact ⟨And.right, fun inside => ⟨known own inside, inside⟩⟩
  refine ⟨result, isArranged, isOutline, properResult, ?_, List.nodup_nil, ?_, ?_, ?_⟩
  · simp only [same]
    exact arrangedKeys
  · intro own none
    cases none
  · intro own
    rw [same]
    simp
  · intro place keeps
    rw [elements place keeps, arithmetic.summed_nil]

/-- Eliminating labels adds them to those that are gone. -/
theorem runOn_eliminate [Platform] (computes : Computes arithmetic embed sum product) {needed : List L}
    (usesNeeded : ∀ label ∈ needed, used label)
    (sums : Sums used key dim arithmetic order covered value gone entry) (state : σ) :
    ∃ result,
      Gives (Room Shape.PassesSpread entry.outline (entry.outline.sorted needed)) (result.image embed)
        (eliminate sum needed (entry.image embed)) state ∧
      result.outline = entry.outline.kept needed ∧
      (∀ own, own ∈ result.keys key ↔ own ∈ entry.keys key ∧ own ∈ needed.map key) ∧
      Sums used key dim arithmetic order covered value
        (gone ++ (entry.keys key).filter fun own => decide (own ∉ needed.map key)) result := by
  obtain ⟨result, ran, proper, isOutline, isKept, elements⟩ :=
    sums.proper.runOn_eliminate tells arithmetic computes usesNeeded state
  have kept : ∀ own, own ∈ result.keys key ↔ own ∈ entry.keys key ∧ own ∈ needed.map key := by
    intro own
    rw [isKept, List.mem_filter, decide_eq_true_iff]
  have eliminated : ∀ own, own ∈ (entry.keys key).filter (fun own => decide (own ∉ needed.map key)) ↔
      own ∈ entry.keys key ∧ own ∉ needed.map key := by
    intro own
    rw [List.mem_filter, decide_eq_true_iff]
  have differentGone : ((entry.keys key).filter fun own => decide (own ∉ needed.map key)).Nodup :=
    sums.proper.different.filter _
  refine ⟨result, ran, isOutline, kept, proper, ?_, ?_, ?_, ?_, ?_⟩
  · calc result.keys key
        = (entry.keys key).filter fun own => decide (own ∈ needed.map key) := isKept
      _ = ((order.map key).filter fun own => decide (own ∈ entry.keys key)).filter
            fun own => decide (own ∈ needed.map key) := congrArg (List.filter _) sums.inOrder
      _ = (order.map key).filter fun own => decide (own ∈ result.keys key) := by
          rw [List.filter_filter]
          apply List.filter_congr
          intro own _
          rw [← Bool.decide_and]
          apply decide_eq_decide.2
          rw [kept, and_comm]
  · rw [List.nodup_append]
    refine ⟨sums.different, differentGone, ?_⟩
    rintro own earlier _ later rfl
    exact sums.apart own earlier ((eliminated own).1 later).1
  · intro own inside among
    rw [kept] at among
    rcases List.mem_append.1 inside with earlier | later
    · exact sums.apart own earlier among.1
    · exact ((eliminated own).1 later).2 among.2
  · intro own
    rw [sums.covers, kept, List.mem_append, eliminated]
    tauto
  · intro place keeps
    rw [elements place keeps, arithmetic.summed_append]
    apply arithmetic.summed_congr
    intro assignment inside
    apply sums.elements
    apply (keeps.extend differentGone inside).of_subset
    intro own among
    rw [List.mem_append, eliminated, kept]
    tauto

/-- After the first step, what is left is needed, and what is gone is not. -/
theorem runOn_firstStep [Platform] (computes : Computes arithmetic embed sum product)
    (usesOrder : ∀ label ∈ order, used label) (differentOrder : (order.map key).Nodup)
    {needed : List L} (usesNeeded : ∀ label ∈ needed, used label) (proper : entry.Proper used key dim)
    (known : ∀ own ∈ entry.keys key, own ∈ order.map key) (state : σ) :
    ∃ (result : Entry M L) (eliminated : List K),
      Gives (Room Shape.PassesSpread entry.outline (entry.outline.arranged order) ∧
          Room Shape.PassesSpread (entry.outline.arranged order)
            ((entry.outline.arranged order).sorted needed))
        (result.image embed) (firstStep sum order needed (entry.image embed)) state ∧
      result.outline = (entry.outline.arranged order).kept needed ∧
      (∀ own ∈ result.keys key, own ∈ needed.map key) ∧
      (∀ own ∈ eliminated, own ∉ needed.map key) ∧
      Sums used key dim arithmetic order (entry.keys key) (entry.read arithmetic.zero key) eliminated
        result := by
  obtain ⟨arranged, arranges, arrangedOutline, holdsFirst⟩ :=
    exists_arrange arithmetic embed tells usesOrder differentOrder proper known
  obtain ⟨result, eliminates, isOutline, keys, holds⟩ :=
    holdsFirst.runOn_eliminate tells computes usesNeeded state
  rw [arrangedOutline] at eliminates isOutline
  refine ⟨result, _, (Gives.lift arranges).bind eliminates, isOutline, ?_, ?_, holds⟩
  · intro own inside
    exact ((keys own).1 inside).2
  · intro own inside
    exact of_decide_eq_true (List.mem_filter.1 inside).2

/-- Joining multiplies the value with the elements of another entry, none of whose labels is gone. -/
theorem runOn_join [Platform] (computes : Computes arithmetic embed sum product)
    (usesOrder : ∀ label ∈ order, used label) (differentOrder : (order.map key).Nodup)
    (sums : Sums used key dim arithmetic order covered value gone entry) {next original : Entry M L}
    (arranged : Sums used key dim arithmetic order (original.keys key)
      (original.read arithmetic.zero key) [] next)
    (present : ∀ own ∈ gone, own ∉ original.keys key) (state : σ) :
    ∃ result,
      Gives (Room Shape.PassesSpread entry.outline (Dimensions.joined order entry.outline next.outline) ∧
          Room Shape.PassesSpread next.outline (Dimensions.joined order entry.outline next.outline))
        (result.image embed) (join order product (entry.image embed) (next.image embed)) state ∧
      result.outline = Dimensions.joined order entry.outline next.outline ∧
      Sums used key dim arithmetic order (covered ++ original.keys key)
        (fun place => arithmetic.times (value place) (original.read arithmetic.zero key place))
        gone result := by
  obtain ⟨result, ran, proper, isOutline, isJoined, elements⟩ := sums.proper.runOn_join tells arithmetic
    computes usesOrder differentOrder arranged.proper sums.known arranged.known state
  have same : ∀ own, own ∈ next.keys key ↔ own ∈ original.keys key := by
    intro own
    rw [arranged.covers own]
    simp
  have joined : ∀ own, own ∈ result.keys key ↔ own ∈ entry.keys key ∨ own ∈ original.keys key := by
    intro own
    rw [isJoined, List.mem_filter, decide_eq_true_iff, List.mem_append, same]
    constructor
    · exact And.right
    · intro among
      exact ⟨among.elim (sums.known own) fun inside => arranged.known own ((same own).2 inside), among⟩
  refine ⟨result, ran, isOutline, proper, ?_, sums.different, ?_, ?_, ?_⟩
  · have alike : ∀ own, own ∈ entry.keys key ++ next.keys key ↔ own ∈ result.keys key := by
      intro own
      rw [List.mem_append, same, joined]
    simp only [alike] at isJoined
    exact isJoined
  · intro own inside among
    rcases (joined own).1 among with earlier | later
    · exact sums.apart own inside earlier
    · exact present own inside later
  · intro own
    rw [List.mem_append, sums.covers, joined, or_assoc]
  · intro place keeps
    have keepsEntry : Keeps dim (entry.keys key) place :=
      keeps.of_subset fun own inside => (joined own).2 (.inl inside)
    have keepsNext : Keeps dim (next.keys key) place :=
      keeps.of_subset fun own inside => (joined own).2 (.inr ((same own).1 inside))
    have isNext : next.read arithmetic.zero key place = original.read arithmetic.zero key place := by
      rw [arranged.elements place keepsNext, arithmetic.summed_nil]
    rw [elements place keeps, sums.elements place keepsEntry, isNext]
    apply arithmetic.summed_times
    intro assignment inside
    apply Entry.read_congr
    intro own among
    apply ((mem_assignments sums.different).1 inside).2 own
    intro isGone
    exact present own isGone among

/-- A step multiplies the value with the elements of the next entry.  What is left is needed, and what is
gone is not. -/
theorem runOn_step [Platform] (computes : Computes arithmetic embed sum product)
    (usesOrder : ∀ label ∈ order, used label) (differentOrder : (order.map key).Nodup)
    {needed : List L} (usesNeeded : ∀ label ∈ needed, used label)
    (sums : Sums used key dim arithmetic order covered value gone entry) {next : Entry M L}
    (proper : next.Proper used key dim) (known : ∀ own ∈ next.keys key, own ∈ order.map key)
    (unwanted : ∀ own ∈ gone, own ∉ next.keys key ++ needed.map key) (state : σ) :
    ∃ (result : Entry M L) (eliminated : List K),
      Gives (RoomStep Shape.PassesSpread order needed entry.outline next.outline) (result.image embed)
        (step sum product order needed (entry.image embed) (next.image embed)) state ∧
      result.outline =
        (Dimensions.joined order entry.outline (next.outline.arranged order)).kept needed ∧
      (∀ own ∈ result.keys key, own ∈ needed.map key) ∧
      (∀ own ∈ eliminated, own ∉ needed.map key) ∧
      Sums used key dim arithmetic order (covered ++ next.keys key)
        (fun place => arithmetic.times (value place) (next.read arithmetic.zero key place))
        eliminated result := by
  obtain ⟨arranged, arranges, arrangedOutline, holdsNext⟩ := exists_arrange arithmetic embed tells
    usesOrder differentOrder proper known
  have present : ∀ own ∈ gone, own ∉ next.keys key := fun own isGone inside =>
    unwanted own isGone (List.mem_append_left _ inside)
  obtain ⟨joined, joins, joinedOutline, holdsJoined⟩ := sums.runOn_join tells computes usesOrder
    differentOrder holdsNext present state
  obtain ⟨result, eliminates, isOutline, keys, holds⟩ :=
    holdsJoined.runOn_eliminate tells computes usesNeeded state
  rw [joinedOutline] at eliminates isOutline
  rw [arrangedOutline] at joins eliminates isOutline
  refine ⟨result, _, (Gives.lift arranges).bind (joins.bind eliminates), isOutline, ?_, ?_, holds⟩
  · intro own inside
    exact ((keys own).1 inside).2
  · intro own inside among
    rcases List.mem_append.1 inside with earlier | later
    · exact unwanted own earlier (List.mem_append_right _ among)
    · exact of_decide_eq_true (List.mem_filter.1 later).2 among

/-- What all entries still to come multiply the value with. -/
def multiplied (arithmetic : Arithmetic M) (key : L → K) (entries : List (Entry M L))
    (value : (K → Nat) → M) (place : K → Nat) : M :=
  entries.foldl (fun product entry => arithmetic.times product (entry.read arithmetic.zero key place))
    (value place)

/-- Once all entries are multiplied, only output labels are left, and no output label is gone. -/
theorem runOn_combine [Platform] (computes : Computes arithmetic embed sum product) {output : List L}
    (usesOrder : ∀ label ∈ order, used label) (differentOrder : (order.map key).Nodup)
    (usesOutput : ∀ label ∈ output, used label) {entries : List (Entry M L)}
    (propers : ∀ next ∈ entries, next.Proper used key dim)
    (known : ∀ next ∈ entries, ∀ own ∈ next.keys key, own ∈ order.map key)
    (sums : Sums used key dim arithmetic order covered value gone entry)
    (wanted : ∀ own ∈ entry.keys key, own ∈ (neededBy entries output).map key)
    (unwanted : ∀ own ∈ gone, own ∉ (neededBy entries output).map key) (state : σ) :
    ∃ result eliminated,
      Gives (RoomFor Shape.PassesSpread order output entry.outline (entries.map Entry.outline))
        (result.image embed)
        (combine sum product order output (entry.image embed) (entries.map (Entry.image embed)))
        state ∧
      (∀ own ∈ result.keys key, own ∈ output.map key) ∧
      (∀ own ∈ eliminated, own ∉ output.map key) ∧
      Sums used key dim arithmetic order (covered ++ entries.flatMap (Entry.keys key))
        (multiplied arithmetic key entries value) eliminated result := by
  induction entries generalizing entry covered value gone with
  | nil =>
      refine ⟨entry, gone, .of_run rfl, wanted, unwanted, ?_⟩
      rw [List.flatMap_nil, List.append_nil]
      exact sums
  | cons next entries hypothesis =>
      have propersRest : ∀ other ∈ entries, other.Proper used key dim := fun other inside =>
        propers other (List.mem_cons_of_mem _ inside)
      have knownRest := fun other inside => known other (List.mem_cons_of_mem next inside)
      have usesNeeded := uses_neededBy (fun other inside => (propersRest other inside).uses) usesOutput
      have keysNeeded : (neededBy (next :: entries) output).map key =
          next.keys key ++ (neededBy entries output).map key := by
        rw [keys_neededBy, keys_neededBy, List.flatMap_cons, List.append_assoc]
      rw [keysNeeded] at unwanted
      obtain ⟨reduced, further, steps, isOutline, wantedNext, unwantedNext, holdsNext⟩ :=
        sums.runOn_step tells computes usesOrder differentOrder usesNeeded
          (propers next List.mem_cons_self) (known next List.mem_cons_self) unwanted state
      obtain ⟨result, eliminated, combines, outputKeys, eliminatedKeys, holds⟩ :=
        hypothesis propersRest knownRest holdsNext wantedNext unwantedNext
      refine ⟨result, eliminated, ?_, outputKeys, eliminatedKeys, ?_⟩
      · have outlined := neededBy_outline (fun other inside => (propersRest other inside).labels_outline)
          output
        rw [List.map_cons, List.map_cons, combine_cons, neededBy_image, roomFor_cons, outlined,
          ← isOutline]
        exact steps.bind combines
      · rw [List.append_assoc] at holds
        exact holds

end Sums

end TensorLogic.Contraction
