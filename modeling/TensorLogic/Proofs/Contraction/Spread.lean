/-
Module: TensorLogic.Proofs.Contraction.Spread
Purpose: An entry that is spread over other labels has the same elements, coordinate by coordinate.
Main exports: Contraction.Entry.read, Contraction.Entry.Proper, Contraction.Entry.Proper.exists_spread
-/
import TensorLogic.Proofs.Contraction.Assignment
import TensorLogic.Proofs.Contraction.Room
import TensorLogic.Proofs.Tensor.Elements

namespace TensorLogic.Contraction

variable {M L K : Type}

namespace Entry

/-- The keys of the labels of an entry. -/
def keys (key : L → K) (entry : Entry M L) : List K := entry.labels.map key

/-- The element of an entry at the coordinates that an assignment gives to its labels. -/
def read (default : M) (key : L → K) (entry : Entry M L) (place : K → Nat) : M :=
  entry.tensor.element default ((entry.keys key).map place)

/-- An entry is proper when its labels are different ones in use, and are used with their dimensions. -/
structure Proper (used : L → Prop) (key : L → K) (dim : K → Nat) (entry : Entry M L) : Prop where
  uses : ∀ label ∈ entry.labels, used label
  different : (entry.keys key).Nodup
  isShape : entry.tensor.shape.values = (entry.keys key).map dim

variable {used : L → Prop} {key : L → K} {dim : K → Nat}

/-- The element of an entry depends on the coordinates of its own labels only. -/
theorem read_congr (default : M) (entry : Entry M L) {place other : K → Nat}
    (same : ∀ own ∈ entry.keys key, place own = other own) :
    entry.read default key place = entry.read default key other :=
  congrArg (entry.tensor.element default) (List.map_congr_left same)

namespace Proper

variable {entry : Entry M L}

theorem length_eq (proper : Proper used key dim entry) :
    entry.labels.length = entry.tensor.shape.length := by
  have lengths := congrArg List.length proper.isShape
  simpa [Shape.values, keys] using lengths.symm

theorem labels_outline (proper : Proper used key dim entry) : entry.outline.labels = entry.labels :=
  List.map_fst_zip (Nat.le_of_eq proper.length_eq)

theorem shape_outline (proper : Proper used key dim entry) :
    entry.outline.shape = entry.tensor.shape :=
  List.map_snd_zip (Nat.le_of_eq proper.length_eq.symm)

theorem keys_outline (proper : Proper used key dim entry) :
    (entry.outline.map fun pair => key pair.1) = entry.keys key := by
  rw [keys, ← proper.labels_outline, Dimensions.labels, List.map_map]
  rfl

/-- The outline of an entry that is labelled with the common dimensions has these dimensions. -/
theorem sized (proper : Proper used key dim entry) : Sized used key dim entry.outline := by
  intro pair inside
  obtain ⟨place, bound, isPair⟩ := List.getElem_of_mem inside
  have bounds := bound
  rw [outline, List.length_zip, ← proper.length_eq, Nat.min_self] at bounds
  have isLabel : entry.labels[place] = pair.1 := by simp [← isPair, outline]
  have inShape : place < entry.tensor.shape.length := proper.length_eq ▸ bounds
  have isDimension : entry.tensor.shape[place] = pair.2 := by simp [← isPair, outline]
  constructor
  · rw [← isLabel]
    exact proper.uses _ (List.getElem_mem bounds)
  · have values : entry.tensor.shape.values[place]? = ((entry.keys key).map dim)[place]? := by
      rw [proper.isShape]
    simpa [Shape.values, keys, inShape, bounds, isLabel, isDimension] using values

end Proper

end Entry

/-! ## Spreading an entry -/

section

variable [DecidableEq K] {keys others : List K}

/-- Each of different keys stands at its own place. -/
theorem map_idxOf_self (different : keys.Nodup) : keys.map keys.idxOf = List.range keys.length := by
  apply List.ext_getElem
  · simp
  · intro place inside bound
    have here : place < keys.length := by simpa using inside
    simpa using List.get_idxOf different ⟨place, here⟩

/-- The keys that others stand at in order are these others. -/
theorem eq_of_map_idxOf (sameLength : others.length = keys.length)
    (inside : ∀ key ∈ keys, key ∈ others)
    (inOrder : keys.map others.idxOf = List.range keys.length) : others = keys := by
  apply List.ext_getElem sameLength
  intro place bound boundKeys
  have stands : others.idxOf keys[place] = place := by
    have here := congrArg (fun places => places[place]?) inOrder
    simpa [boundKeys] using here
  have found := List.getElem?_idxOf (inside _ (List.getElem_mem boundKeys))
  rw [stands, List.getElem?_eq_getElem bound] at found
  exact Option.some.inj found

/-- The coordinates that an assignment gives to keys can be picked out of those of other keys. -/
theorem pull_idxOf (place : K → Nat) (inside : ∀ key ∈ keys, key ∈ others) :
    Index.pull (keys.map others.idxOf) (others.map place) = keys.map place := by
  rw [Index.pull, List.map_map]
  apply List.map_congr_left
  intro key among
  simp [List.getD_eq_getElem?_getD, List.getElem?_idxOf (inside key among)]

/-- Sending each key to its place among the others fits, as equal keys have equal dimensions. -/
theorem fits_idxOf {dim : K → Nat} {source target : Shape} (isSource : source.values = keys.map dim)
    (isTarget : target.values = others.map dim) (inside : ∀ key ∈ keys, key ∈ others) :
    Fits source target (keys.map others.idxOf) := by
  rw [Fits, isSource, isTarget, List.map_map, List.map_map]
  apply List.map_congr_left
  intro key among
  simp [List.getElem?_idxOf (inside key among)]

end

section

variable [AxisLabel L] {used : L → Prop} {key : L → K} {dim : K → Nat}

@[simp]
theorem labels_spanning (dimensions : Dimensions L) (labels : List L) :
    (Dimensions.spanning dimensions labels).labels = labels := by
  rw [Dimensions.labels, Dimensions.spanning, List.map_map]
  exact List.map_id labels

/-- Labels are spanned with the dimensions of their keys. -/
theorem values_spanning (dimensions : Dimensions L) {labels : List L}
    (sized : ∀ label ∈ labels, (dimensionOf dimensions label).value = dim (key label)) :
    (Dimensions.spanning dimensions labels).shape.values = (labels.map key).map dim := by
  rw [Dimensions.shape, Dimensions.spanning, Shape.values, List.map_map, List.map_map, List.map_map]
  exact List.map_congr_left sized

/-- Over labels with the same keys, each with its own dimension, the shape is the same. -/
theorem Entry.Proper.shape_spanning {entry : Entry M L} (proper : entry.Proper used key dim)
    {dimensions : Dimensions L} {labels : List L} (same : labels.map key = entry.keys key)
    (faithful : ∀ pair ∈ entry.outline, ∀ label ∈ labels, key label = key pair.1 →
      dimensionOf dimensions label = pair.2) :
    (dimensions.spanning labels).shape = entry.tensor.shape := by
  rw [← proper.shape_outline]
  have sameKeys : labels.map key = entry.outline.map fun pair => key pair.1 := by
    rw [same, proper.keys_outline]
  clear same
  generalize entry.outline = outline at faithful sameKeys
  induction labels generalizing outline with
  | nil =>
      rw [List.map_eq_nil_iff.1 sameKeys.symm]
      rfl
  | cons label labels hypothesis =>
      obtain ⟨pair, rest, rfl, isFirst, isRest⟩ := List.map_eq_cons_iff.1 sameKeys.symm
      have first := faithful pair List.mem_cons_self label List.mem_cons_self isFirst.symm
      have later := hypothesis rest (fun other among own inside => faithful other
        (List.mem_cons_of_mem _ among) own (List.mem_cons_of_mem _ inside)) isRest.symm
      change dimensionOf dimensions label :: _ = pair.2 :: _
      rw [first]
      exact congrArg (List.cons pair.2) later

variable [DecidableEq K]

/-- An entry can be spread over labels among which its own ones are, provided that there is room.  Its
elements stay the same. -/
theorem Entry.Proper.exists_spread [Platform] (tells : Tells key used) (default : M) {entry : Entry M L}
    (proper : entry.Proper used key dim) {labels : List L} (uses : ∀ label ∈ labels, used label)
    (different : (labels.map key).Nodup) (covers : ∀ own ∈ entry.keys key, own ∈ labels.map key)
    {dimensions : Dimensions L}
    (sized : ∀ label ∈ labels, (dimensionOf dimensions label).value = dim (key label)) :
    ∃ tensor,
      Provided (Room Shape.PassesSpread entry.outline (dimensions.spanning labels)) tensor
        (spread entry labels dimensions) ∧
      Entry.Proper used key dim ⟨tensor, labels⟩ ∧
      ((∀ pair ∈ entry.outline, ∀ label ∈ labels, key label = key pair.1 →
          dimensionOf dimensions label = pair.2) →
        tensor.shape = (dimensions.spanning labels).shape) ∧
      ∀ place, Keeps dim (labels.map key) place →
        Entry.read default key ⟨tensor, labels⟩ place = entry.read default key place := by
  have isTarget := values_spanning dimensions sized
  have isAxes : entry.labels.map labels.idxOf = (entry.keys key).map (labels.map key).idxOf := by
    rw [Entry.keys, List.map_map]
    exact List.map_congr_left fun label among => idxOf_eq tells uses (proper.uses label among)
  have fits : Fits entry.tensor.shape (dimensions.spanning labels).shape
      (entry.labels.map labels.idxOf) := by
    rw [isAxes]
    exact fits_idxOf proper.isShape isTarget covers
  have counted : entry.tensor.order = (entry.keys key).length := by
    rw [Entry.keys, List.length_map, proper.length_eq]
    rfl
  have unmoved : (Shape.Agree (dimensions.spanning labels).shape entry.tensor.shape ∧
      entry.labels.map labels.idxOf = List.range entry.tensor.order) ↔
        labels.map key = entry.keys key := by
    rw [isAxes, counted, Shape.Agree, isTarget, proper.isShape]
    constructor
    · rintro ⟨sameValues, inOrder⟩
      apply eq_of_map_idxOf _ covers inOrder
      simpa using congrArg List.length sameValues
    · intro same
      rw [same]
      exact ⟨rfl, map_idxOf_self proper.different⟩
  obtain ⟨tensor, spreads, isShape, elements⟩ := Tensor.exists_reshape default fits
  refine ⟨tensor, ?_, ⟨uses, different, ?_⟩, ?_, ?_⟩
  · have isTargets : (dimensions.spanning labels).shape.map Count.toWhole =
        labels.map fun label => (dimensionOf dimensions label).toWhole := by
      rw [Dimensions.shape, Dimensions.spanning, List.map_map, List.map_map]
      rfl
    have isMap : Tensor.axisMap (entry.labels.map labels.idxOf) =
        entry.labels.map fun label => .number (labels.idxOf label) := by
      rw [Tensor.axisMap, List.map_map]
      rfl
    rw [isTargets, isMap] at spreads
    rw [spread, spreads, Room, labels_spanning, proper.labels_outline,
      beq_iff_keys tells uses proper.uses, proper.shape_outline]
    change Provided (labels.map key = entry.keys key ∨ _) tensor _
    rw [← unmoved]
    split
    · rename_i same
      exact .given (.inl same)
    · rename_i moved
      cases checked : Shape.checkSpread entry.tensor.shape (dimensions.spanning labels).shape with
      | ok =>
          exact .given (.inr checked)
      | error fault =>
          refine .crowded (fun room => ?_) ⟨_, _, checked⟩
          cases room with
          | inl same => exact moved same
          | inr enough => cases checked.symm.trans enough
  · change tensor.shape.values = _
    rw [isShape]
    split
    · rename_i same
      exact same.1.symm.trans isTarget
    · exact isTarget
  · intro faithful
    rw [isShape]
    split
    · rename_i same
      exact (proper.shape_spanning (unmoved.1 same) faithful).symm
    · rfl
  · intro place keeps
    have picked := elements _ (keeps.within isTarget)
    rw [isAxes, pull_idxOf place covers] at picked
    exact picked

end

end TensorLogic.Contraction
