/-
Module: TensorLogic.Proofs.Contraction.Exact
Purpose: A contraction gives the sums of products that its definition promises.
Main exports: Contraction.bruteForce, Contraction.Suited, Contraction.runOn_contract
-/
import Mathlib.Data.List.Dedup
import TensorLogic.Proofs.Contraction.Adding
import TensorLogic.Proofs.Contraction.Combine

namespace TensorLogic.Contraction

/-!
The element of a contraction at an index is a sum over all assignments of coordinates to the labels
that are not asked for.  Each summand is the product of the elements that the assignment picks out of
the tensors, from the first tensor to the last.
-/

variable {σ V M L K : Type}

section

variable [DecidableEq K]

/-- The keys of the labels that are summed over: those of the tensors, without those of the output. -/
def remaining (key : L → K) (entries : List (Entry M L)) (output : List L) : List K :=
  (entries.flatMap (Entry.keys key)).dedup.filter fun own => decide (own ∉ output.map key)

/-- The product of the elements that an assignment picks out of entries, from the first to the last. -/
def productOf (arithmetic : Arithmetic M) (key : L → K) : List (Entry M L) → (K → Nat) → M
  | [], _ => arithmetic.zero
  | first :: rest, place =>
      rest.foldl (fun product entry =>
        arithmetic.times product (entry.read arithmetic.zero key place))
          (first.read arithmetic.zero key place)

/-- The assignment that gives keys the coordinates of an index. -/
def coordinates (keys : List K) (index : Index) (key : K) : Nat := index.getD (keys.idxOf key) 0

/-- The sum over all assignments that agree with an index on the output labels. -/
def bruteForce (arithmetic : Arithmetic M) (key : L → K) (dim : K → Nat) (entries : List (Entry M L))
    (output : List L) (index : Index) : M :=
  arithmetic.summed dim (remaining key entries output) (productOf arithmetic key entries)
    (coordinates (output.map key) index)

/-- Reading an index by its keys and writing it down again gives the index. -/
theorem map_coordinates {keys : List K} (different : keys.Nodup) {index : Index}
    (sameLength : index.length = keys.length) : keys.map (coordinates keys index) = index := by
  have picked : keys.map (coordinates keys index) = Index.pull (keys.map keys.idxOf) index := by
    rw [Index.pull, List.map_map]
    rfl
  rw [picked, map_idxOf_self different, ← sameLength, Tensor.pull_range]

/-- The coordinates of an index within a shape stay below the dimensions. -/
theorem keeps_coordinates {keys : List K} {dim : K → Nat} {shape : Shape}
    (isShape : shape.values = keys.map dim) {index : Index} (within : Within index shape) :
    Keeps dim keys (coordinates keys index) := by
  intro own inside
  apply within.getD_lt
  rw [isShape, List.getElem?_map, List.getElem?_idxOf inside]
  rfl

end

variable [AxisLabel L]

/-- The labels of the tensors and of the output. -/
def InUse (entries : List (Entry M L)) (output : List L) (label : L) : Prop :=
  label ∈ entries.flatMap Entry.labels ∨ label ∈ output

/-- Tensors and an output that can be contracted: the labels in use are told apart by their keys, no
label is repeated, each is used with one dimension only, and the output asks for labels of the
tensors. -/
structure Suited [DecidableEq K] (key : L → K) (dim : K → Nat) (entries : List (Entry M L))
    (output : List L) : Prop where
  nonempty : entries ≠ []
  tells : Tells key (InUse entries output)
  different : ∀ entry ∈ entries, (entry.keys key).Nodup
  dimensions : ∀ entry ∈ entries, entry.tensor.shape.values = (entry.keys key).map dim
  differentOutput : (output.map key).Nodup
  known : ∀ own ∈ output.map key, own ∈ entries.flatMap (Entry.keys key)

/-- Add tensors to a contraction, one after the other. -/
def addAll (contraction : Contraction σ V L) (entries : List (Entry V L)) :
    Except Fault (Contraction σ V L) :=
  entries.foldlM (fun contraction entry => contraction.add entry.tensor entry.labels) contraction

theorem add_eq {contraction : Contraction σ V L} (usable : contraction.consumed = false)
    {entry : Entry V L} (counted : entry.labels.length = entry.tensor.order)
    (different : allDifferent entry.labels = true) :
    contraction.add entry.tensor entry.labels = .ok {
      contraction with
      order := touch contraction.order entry.labels
      entries := contraction.entries ++ [entry] } :=
  add_of_wellLabelled usable ⟨counted, allDifferent_iff.1 different⟩

/-- Tensors with as many different labels as axes can be added. -/
theorem addAll_eq {contraction : Contraction σ V L} (usable : contraction.consumed = false)
    {entries : List (Entry V L)} (counted : ∀ entry ∈ entries, entry.labels.length = entry.tensor.order)
    (different : ∀ entry ∈ entries, allDifferent entry.labels = true) :
    contraction.addAll entries = .ok {
      contraction with
      order := touch contraction.order (entries.flatMap Entry.labels)
      entries := contraction.entries ++ entries } := by
  induction entries generalizing contraction with
  | nil =>
      rw [List.append_nil]
      rfl
  | cons entry entries hypothesis =>
      have added := add_eq usable (counted entry List.mem_cons_self)
        (different entry List.mem_cons_self)
      unfold addAll
      rw [List.foldlM_cons, added]
      have rest : addAll { contraction with
          order := touch contraction.order entry.labels
          entries := contraction.entries ++ [entry] } entries = _ :=
        hypothesis usable (fun other inside => counted other (List.mem_cons_of_mem _ inside))
          fun other inside => different other (List.mem_cons_of_mem _ inside)
      rw [List.flatMap_cons, touch_append]
      rw [List.append_assoc] at rest
      exact rest

/-- A tensor that was added has as many different labels as axes. -/
theorem fit_of_add {contraction next : Contraction σ V L} {tensor : Tensor V} {labels : List L}
    (isAdded : contraction.add tensor labels = .ok next) :
    labels.length = tensor.order ∧ allDifferent labels = true := by
  obtain ⟨_, fits, _⟩ := add_eq_ok_iff.1 isAdded
  exact ⟨fits.counted, allDifferent_iff.2 fits.different⟩

/-- Entries that were added have labels that fit. -/
theorem fit_of_addAll {contraction added : Contraction σ V L} {entries : List (Entry V L)}
    (isAdded : contraction.addAll entries = .ok added) :
    ∀ entry ∈ entries,
      entry.labels.length = entry.tensor.order ∧ allDifferent entry.labels = true := by
  induction entries generalizing contraction with
  | nil => exact nofun
  | cons entry entries hypothesis =>
      unfold addAll at isAdded
      rw [List.foldlM_cons] at isAdded
      cases isNext : contraction.add entry.tensor entry.labels with
      | error fault =>
          rw [isNext] at isAdded
          cases isAdded
      | ok next =>
          rw [isNext] at isAdded
          exact List.forall_mem_cons.2 ⟨fit_of_add isNext, hypothesis isAdded⟩

namespace Suited

variable [DecidableEq K] {key : L → K} {dim : K → Nat} {entries : List (Entry M L)} {output : List L}

/-- Entries that are suited are labelled with the common dimensions. -/
theorem proper (suited : Suited key dim entries output) :
    ∀ entry ∈ entries, entry.Proper (InUse entries output) key dim := by
  intro entry inside
  refine ⟨?_, suited.different entry inside, suited.dimensions entry inside⟩
  intro label own
  exact .inl (List.mem_flatMap.2 ⟨entry, inside, own⟩)

omit [AxisLabel L] [DecidableEq K] in
theorem keys_labels (key : L → K) (entries : List (Entry M L)) :
    (entries.flatMap Entry.labels).map key = entries.flatMap (Entry.keys key) := by
  rw [List.map_flatMap]
  rfl

/-- The labels in the order of their last mention, once all tensors are added. -/
def added (entries : List (Entry M L)) : List L := touch [] (entries.flatMap Entry.labels)

omit [DecidableEq K] in
theorem uses_added : ∀ label ∈ added entries, InUse entries output label :=
  used_touch (fun _ none => nomatch none) fun _ inside => .inl inside

/-- The order that adding leaves has the keys of the entries. -/
theorem mem_keys_added (tells : Tells key (InUse entries output)) (own : K) :
    own ∈ (added entries).map key ↔ own ∈ entries.flatMap (Entry.keys key) := by
  have none : ∀ label ∈ ([] : List L), InUse entries output label := fun _ inside => nomatch inside
  rw [added, mem_keys_touch tells none fun _ inside => .inl inside, keys_labels]
  simp

/-- The order that adding leaves has every key once. -/
theorem nodup_keys_added (tells : Tells key (InUse entries output)) :
    ((added entries).map key).Nodup := by
  have none : ∀ label ∈ ([] : List L), InUse entries output label := fun _ inside => nomatch inside
  exact nodup_keys_touch tells none (fun _ inside => .inl inside) List.nodup_nil

omit [DecidableEq K] in
theorem uses_order : ∀ label ∈ touch (added entries) output, InUse entries output label :=
  used_touch uses_added fun _ inside => .inr inside

/-- Touching the output labels leaves every key once. -/
theorem nodup_keys_order (tells : Tells key (InUse entries output)) :
    ((touch (added entries) output).map key).Nodup :=
  nodup_keys_touch tells uses_added (fun _ inside => .inr inside) (nodup_keys_added tells)

/-- Every key of an entry stands in the order. -/
theorem mem_keys_order (tells : Tells key (InUse entries output)) {entry : Entry M L}
    (inside : entry ∈ entries) {own : K} (among : own ∈ entry.keys key) :
    own ∈ (touch (added entries) output).map key := by
  rw [mem_keys_touch tells uses_added fun _ inside => .inr inside, mem_keys_added tells]
  exact .inl (List.mem_flatMap.2 ⟨entry, inside, among⟩)

/-- Suitable output labels are not objected to. -/
theorem checkOutput_eq (suited : Suited key dim entries output) {contraction : Contraction σ V L}
    (nonempty : contraction.entries.isEmpty = false) (isOrder : contraction.order = added entries) :
    contraction.checkOutput output = .ok () := by
  have different : allDifferent output = true :=
    (nodup_iff_allDifferent suited.tells fun _ inside => .inr inside).2 suited.differentOutput
  have known : output.find? (fun label => !contraction.order.elem label) = none := by
    rw [List.find?_eq_none]
    intro label inside
    have among : key label ∈ (added entries).map key :=
      (mem_keys_added suited.tells _).2 (suited.known _ (List.mem_map_of_mem inside))
    rw [isOrder, elem_eq_decide suited.tells uses_added (.inr inside), decide_eq_true among]
    simp
  unfold checkOutput
  rw [nonempty, different, known]
  rfl

/-- Once the labels that are not asked for are gone, the entry has the output labels in their order, and
what is gone are all other labels. -/
theorem keys_eq (suited : Suited key dim entries output) {arithmetic : Arithmetic M}
    {value : (K → Nat) → M} {gone : List K} {result : Entry M L}
    (sums : Sums (InUse entries output) key dim arithmetic (touch (added entries) output)
      (entries.flatMap (Entry.keys key)) value gone result)
    (wanted : ∀ own ∈ result.keys key, own ∈ output.map key)
    (unwanted : ∀ own ∈ gone, own ∉ output.map key) :
    result.keys key = output.map key ∧ gone.Perm (remaining key entries output) := by
  have same : ∀ own, own ∈ result.keys key ↔ own ∈ output.map key := by
    intro own
    constructor
    · exact wanted own
    · intro inside
      exact ((sums.covers own).1 (suited.known own inside)).resolve_left
        fun isGone => unwanted own isGone inside
  constructor
  · have inOrder := sums.inOrder
    simp only [same] at inOrder
    rw [inOrder, keys_touch suited.tells uses_added (fun _ inside => .inr inside)
      suited.differentOutput, List.filter_append, List.filter_filter]
    have front : ((added entries).map key).filter (fun own =>
        decide (own ∈ output.map key) && decide (own ∉ output.map key)) = [] := by
      simp
    have back : (output.map key).filter (fun own => decide (own ∈ output.map key)) =
        output.map key := List.filter_eq_self.2 fun own inside => decide_eq_true inside
    rw [front, back, List.nil_append]
  · unfold remaining
    rw [List.perm_ext_iff_of_nodup sums.different ((List.nodup_dedup _).filter _)]
    intro own
    rw [List.mem_filter, List.mem_dedup, decide_eq_true_iff, sums.covers, same]
    have never := unwanted own
    tauto

/-- What is accumulated has the output labels in their order, and its elements are the sums of products
over all other labels, provided that there is room for each rearrangement. -/
theorem runOn_accumulate [Platform] (suited : Suited key dim entries output) {arithmetic : Arithmetic M}
    {embed : M → V} {sum : List V → Act σ V} {product : V → V → Act σ V}
    (computes : Computes arithmetic embed sum product) (state : σ) :
    ∃ (result : Entry M L) (gone : List K),
      Gives (Roomy Shape.PassesSpread output (entries.map Entry.outline)) (result.image embed)
        (accumulate sum product (touch (added entries) output) output
          (entries.map (Entry.image embed))) state ∧
      result.keys key = output.map key ∧ gone.Perm (remaining key entries output) ∧
      Sums (InUse entries output) key dim arithmetic (touch (added entries) output)
        (entries.flatMap (Entry.keys key)) (productOf arithmetic key entries) gone result := by
  have propers := suited.proper
  have usesOrder : ∀ label ∈ touch (added entries) output, InUse entries output label := uses_order
  have differentOrder := nodup_keys_order suited.tells
  have known : ∀ entry ∈ entries, ∀ own ∈ entry.keys key,
      own ∈ (touch (added entries) output).map key := fun _ inside _ =>
    mem_keys_order suited.tells inside
  cases entries with
  | nil => exact absurd rfl suited.nonempty
  | cons first rest =>
      have propersRest : ∀ entry ∈ rest, entry.Proper (InUse (first :: rest) output) key dim :=
        fun entry inside => propers entry (List.mem_cons_of_mem _ inside)
      have usesOutput : ∀ label ∈ output, InUse (first :: rest) output label :=
        fun _ inside => .inr inside
      have usesNeeded := uses_neededBy (fun entry inside => (propersRest entry inside).uses) usesOutput
      obtain ⟨start, eliminated, starts, startOutline, startWanted, startUnwanted, holdsStart⟩ :=
        Sums.runOn_firstStep suited.tells computes usesOrder differentOrder usesNeeded
          (propers first List.mem_cons_self) (known first List.mem_cons_self) state
      obtain ⟨result, gone, combines, wanted, unwanted, holds⟩ := holdsStart.runOn_combine suited.tells
        computes usesOrder differentOrder usesOutput propersRest
        (fun entry inside => known entry (List.mem_cons_of_mem _ inside)) startWanted startUnwanted state
      obtain ⟨isOutput, isRemaining⟩ := suited.keys_eq holds wanted unwanted
      refine ⟨result, gone, ?_, isOutput, isRemaining, holds⟩
      have outlined := labels_outlines fun entry inside => (propers entry inside).labels_outline
      have needed := neededBy_outline (fun entry inside => (propersRest entry inside).labels_outline)
        output
      rw [List.map_cons, List.map_cons, accumulate, neededBy_image, Roomy, ← List.map_cons, outlined,
        needed]
      rw [startOutline] at combines
      exact (starts.bind combines).of_iff and_assoc

/-- The contraction gives the brute-force sums, where there is room for each rearrangement. -/
theorem runOn_contract [Platform] [HasJournal σ] (suited : Suited key dim entries output)
    (roomy : Roomy Shape.PassesSpread output (entries.map Entry.outline)) {arithmetic : Arithmetic M}
    {embed : M → V} {contraction : Contraction σ V L}
    (computes : Computes arithmetic embed contraction.sum contraction.product)
    (isOrder : contraction.order = added entries)
    (isEntries : contraction.entries = entries.map (Entry.image embed)) (state : σ) :
    ∃ result : Tensor M, ((contraction.contract output).runOn state).1 = .ok (result.map embed) ∧
      result.shape.values = (output.map key).map dim ∧
      ∀ index (within : Within index result.shape),
        result.get index within = bruteForce arithmetic key dim entries output index := by
  have isChecked : contraction.checkOutput output = .ok () := by
    apply suited.checkOutput_eq _ isOrder
    rw [isEntries, List.isEmpty_map, List.isEmpty_eq_false_iff]
    exact suited.nonempty
  obtain ⟨noted, isNoted⟩ : ∃ noted, noted = HasJournal.note (.contracting contraction.pending
    (touch (added entries) output).length (AxisLabel.tupleText output)) state := ⟨_, rfl⟩
  obtain ⟨result, gone, accumulates, isOutput, isRemaining, holds⟩ :=
    suited.runOn_accumulate computes noted
  have isShape := holds.proper.isShape
  rw [isOutput] at isShape
  refine ⟨result.tensor, ?_, isShape, ?_⟩
  · rw [contract_eq, runOn_checked isChecked, isOrder, ← isNoted, isEntries,
      Act.runOn_bind_ok (accumulates.run_eq roomy)]
    rfl
  · intro index within
    have sameLength : index.length = (output.map key).length := by
      rw [Shape.length_eq_of_within within]
      simpa [Shape.values] using congrArg List.length isShape
    have isIndex := map_coordinates suited.differentOutput sameLength
    have keeps := keeps_coordinates isShape within
    rw [← isOutput] at keeps
    have read := holds.elements _ keeps
    rw [isOutput, Entry.read, isOutput, isIndex, Tensor.element_of_within within] at read
    rw [read, arithmetic.summed_perm holds.different isRemaining]
    rfl

end Suited

end TensorLogic.Contraction
