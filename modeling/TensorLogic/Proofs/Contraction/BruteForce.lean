/-
Module: TensorLogic.Proofs.Contraction.BruteForce
Purpose: Contractions over any arithmetic, over the integers, and over truth values, with quantification
  and with parity.
Main exports: Arithmetic.integers, Arithmetic.existence, Arithmetic.parity, Contraction.Exact,
  Contraction.contract_eq_bruteForce
-/
import TensorLogic.Datum.Function
import TensorLogic.Proofs.Algebra.Truth
import TensorLogic.Proofs.Contraction.Exact

namespace TensorLogic

namespace Arithmetic

/-- The integers. -/
def integers : Arithmetic Int where
  zero := 0
  plus := (· + ·)
  times := (· * ·)
  plus_assoc := Int.add_assoc
  plus_comm := Int.add_comm
  zero_plus := Int.zero_add
  plus_times := Int.add_mul
  zero_times := Int.zero_mul

/-- Truth values, where a sum says that there is a true one. -/
def existence : Arithmetic Bool where
  zero := false
  plus := or
  times := and
  plus_assoc := Bool.or_assoc
  plus_comm := Bool.or_comm
  zero_plus := Bool.false_or
  plus_times := Bool.and_or_distrib_right
  zero_times := Bool.false_and

/-- Truth values, where a sum says that the number of true ones is odd. -/
def parity : Arithmetic Bool where
  zero := false
  plus := xor
  times := and
  plus_assoc := Bool.xor_assoc
  plus_comm := Bool.xor_comm
  zero_plus := Bool.false_xor
  plus_times := fun first second third => Bool.and_xor_distrib_right first second third
  zero_times := Bool.false_and

/-- Truth values with disjunction add up to whether one of them holds. -/
theorem total_existence (members : List Bool) : existence.total members = members.any id := by
  induction members with
  | nil => rfl
  | cons member members hypothesis =>
      change (member || existence.total members) = _
      rw [hypothesis]
      rfl

/-- Truth values with exclusive disjunction add up to whether an odd number of them holds. -/
theorem total_parity (members : List Bool) :
    parity.total members = (members.count true % 2 == 1) := by
  induction members with
  | nil => rfl
  | cons member members hypothesis =>
      change xor member (parity.total members) = _
      rw [hypothesis, List.count_cons]
      cases member with
      | false => simp
      | true =>
          rcases Nat.mod_two_eq_zero_or_one (members.count true) with even | odd
          · simp [Nat.add_mod, even]
          · simp [Nat.add_mod, odd]

end Arithmetic

namespace Contraction

section

variable {σ V : Type}

/-- Whole numbers as data add up to their sum. -/
theorem sum_integers (members : List Int) (start : Int) :
    (members.map Datum.int).foldlM Datum.add (Datum.int start) =
      .ok (Datum.int (start + Arithmetic.integers.total members)) := by
  induction members generalizing start with
  | nil => exact congrArg (fun total => Except.ok (Datum.int total)) (Int.add_zero start).symm
  | cons member members hypothesis =>
      have step : (Datum.int start).add (Datum.int member) = .ok (Datum.int (start + member)) := rfl
      rw [List.map_cons, List.foldlM_cons, step]
      change List.foldlM Datum.add (Datum.int (start + member)) (members.map Datum.int) = _
      rw [hypothesis, Int.add_assoc]
      rfl

/-- Sums and products of whole numbers are those of the integers. -/
theorem computes_integers [Platform] : Computes (σ := σ) Arithmetic.integers Datum.int
    (fun data => liftM (Reduction.sum.apply data))
    (fun left right => liftM (Binary.mul.apply left right)) := by
  constructor
  · intro members state
    rw [Act.runOn_lift, Reduction.apply, sum_integers, Int.zero_add]
  · intro first second state
    rfl

theorem conj_ofBool [TruthValued V] (first second : Bool) (state : σ) :
    ((Truth.algebra : BoolAlgebra σ V).conj (Truth.ofBool first) (Truth.ofBool second)).runOn state =
      (.ok (Truth.ofBool (first && second)), state) := by
  have isConj := Truth.connective_eq (σ := σ) .conj (Truth.ofBool first : V) (Truth.ofBool second)
  rw [Truth.truth_ofBool, Truth.truth_ofBool] at isConj
  exact congrArg (Act.runOn · state) isConj

/-- Disjunctions and conjunctions of truth values quantify over them. -/
theorem computes_existence [TruthValued V] : Computes Arithmetic.existence (Truth.ofBool : Bool → V)
    (Truth.algebra : BoolAlgebra σ V).any (Truth.algebra : BoolAlgebra σ V).conj := by
  refine ⟨fun members state => ?_, conj_ofBool⟩
  have isAny := Truth.aggregate_eq (σ := σ) .any (members.map (Truth.ofBool : Bool → V))
  rw [Truth.values_ofBool] at isAny
  rw [Arithmetic.total_existence]
  exact congrArg (Act.runOn · state) isAny

/-- Exclusive disjunctions and conjunctions of truth values count them. -/
theorem computes_parity [TruthValued V] : Computes Arithmetic.parity (Truth.ofBool : Bool → V)
    (Truth.algebra : BoolAlgebra σ V).parity (Truth.algebra : BoolAlgebra σ V).conj := by
  refine ⟨fun members state => ?_, conj_ofBool⟩
  have isParity := Truth.aggregate_eq (σ := σ) .parity (members.map (Truth.ofBool : Bool → V))
  rw [Truth.values_ofBool] at isParity
  rw [Arithmetic.total_parity]
  exact congrArg (Act.runOn · state) isParity

end

/-- A contraction with some operations gives the brute-force sums of an arithmetic: tensors that are
suited to be contracted can be added, and where all dimensions are numbers and there is room for each
rearrangement, the result has the dimensions of the output labels and the brute-force sum at each index. -/
def Exact [Platform] {σ V M L : Type} [HasJournal σ] [AxisLabel L] (arithmetic : Arithmetic M) (embed : M → V)
    (contraction : Contraction σ V L) : Prop :=
  ∀ {K : Type} [DecidableEq K] (key : L → K) (dim : K → Nat) (entries : List (Entry M L))
    (output : List L), Suited key dim entries output →
      (∀ entry ∈ entries, entry.tensor.shape.Numeric) →
      Roomy Shape.FitsSpread output (entries.map Entry.outline) →
    ∀ state, ∃ added, contraction.addAll (entries.map (Entry.image embed)) = .ok added ∧
      ∃ result : Tensor M, ((added.take (.ok output)).1.runOn state).1 = .ok (result.map embed) ∧
        result.shape.values = (output.map key).map dim ∧
        ∀ index (within : Within index result.shape),
          result.get index within = bruteForce arithmetic key dim entries output index

section

variable {σ V M L : Type} [HasJournal σ] [AxisLabel L]

/-- Where sum and product compute those of an arithmetic, every contraction is the sum over all assignments.
-/
theorem exact_of_computes [Platform] {arithmetic : Arithmetic M} {embed : M → V} {sum : List V → Act σ V}
    {product : V → V → Act σ V} (computes : Computes arithmetic embed sum product) :
    Exact arithmetic embed ({ sum, product } : Contraction σ V L) := by
  intro K _ key dim entries output suited typed roomy state
  have passing : Roomy Shape.PassesSpread output (entries.map Entry.outline) :=
    (roomy_iff (numeric_outlines typed)).1 roomy
  have images : ∀ entry ∈ entries.map (Entry.image embed), ∃ original ∈ entries,
      original.image embed = entry := fun entry inside => List.mem_map.1 inside
  have added := @addAll_eq σ V L _ { sum, product } rfl (entries.map (Entry.image embed)) (by
    intro entry inside
    obtain ⟨original, among, rfl⟩ := images entry inside
    exact (suited.proper original among).length_eq) (by
    intro entry inside
    obtain ⟨original, among, rfl⟩ := images entry inside
    exact (nodup_iff_allDifferent suited.tells (suited.proper original among).uses).2
      (suited.different original among))
  have isOrder : touch [] ((entries.map (Entry.image embed)).flatMap Entry.labels) =
      Suited.added entries := by
    rw [List.flatMap_map]
    rfl
  exact ⟨_, added, suited.runOn_contract passing computes isOrder rfl state⟩

/-- Contractions are exact for any operations that compute an arithmetic: for sums and products of whole
numbers, and for disjunctions or exclusive disjunctions of conjunctions of truth values. -/
theorem contract_eq_bruteForce [Platform] :
    (∀ {M V : Type} (arithmetic : Arithmetic M) (embed : M → V) (sum : List V → Act σ V)
      (product : V → V → Act σ V), Computes arithmetic embed sum product →
        Exact arithmetic embed ({ sum, product } : Contraction σ V L)) ∧
    Exact Arithmetic.integers Datum.int
      ({ sum := fun data => liftM (Reduction.sum.apply data)
         product := fun left right => liftM (Binary.mul.apply left right) } : Contraction σ Datum L) ∧
    (∀ {V : Type} [TruthValued V], Exact Arithmetic.existence (Truth.ofBool : Bool → V)
      ({ sum := Truth.algebra.any, product := Truth.algebra.conj } : Contraction σ V L)) ∧
    ∀ {V : Type} [TruthValued V], Exact Arithmetic.parity (Truth.ofBool : Bool → V)
      ({ sum := Truth.algebra.parity, product := Truth.algebra.conj } : Contraction σ V L) := by
  refine ⟨?_, ?_, ?_, ?_⟩
  · intro M V arithmetic embed sum product computes
    exact exact_of_computes computes
  · exact exact_of_computes computes_integers
  · intro V _
    exact exact_of_computes computes_existence
  · intro V _
    exact exact_of_computes computes_parity

end

/-- The whole number that a label stands for, where it is one. -/
def Label.number (label : Label) : Int := label.datum.integer?.getD 0

theorem Label.beq_int_iff {first second : Int} :
    (Label.int first == Label.int second) = true ↔ first = second := by
  have equal_iff : (Datum.int first).equal (.int second) = true ↔ first = second := by
    change (first * 1 == second * 1) = true ↔ first = second
    rw [Int.mul_one, Int.mul_one, beq_iff_eq]
  change ((Datum.int first).isSame (.int second) || (Datum.int first).equal (.int second)) = true ↔ _
  rw [Bool.or_eq_true, equal_iff, or_iff_right_iff_imp]
  intro same
  simp only [Datum.isSame, Mark.same, Scalar.isShared, Bool.false_or, Bool.and_eq_true,
    beq_iff_eq] at same
  exact same.1

/-- Labels that are whole numbers are told apart by these. -/
theorem tells_numbers {used : Label → Prop}
    (numbers : ∀ label, used label → ∃ value, label = .int value) : Tells Label.number used := by
  intro left right usesLeft usesRight
  obtain ⟨first, rfl⟩ := numbers left usesLeft
  obtain ⟨second, rfl⟩ := numbers right usesRight
  exact Label.beq_int_iff

/-- The labels of entries that are all numbers are told apart by them. -/
theorem tells_inUse {entries : List (Entry M Label)} {output : List Label}
    (numbers : ∀ entry ∈ entries, ∃ values : List Int, entry.labels = values.map Label.int)
    (outputs : ∃ values : List Int, output = values.map Label.int) :
    Tells Label.number (InUse entries output) := by
  apply tells_numbers
  rintro label (inside | inside)
  · obtain ⟨entry, among, own⟩ := List.mem_flatMap.1 inside
    obtain ⟨values, isLabels⟩ := numbers entry among
    rw [isLabels] at own
    obtain ⟨value, _, rfl⟩ := List.mem_map.1 own
    exact ⟨value, rfl⟩
  · obtain ⟨values, rfl⟩ := outputs
    obtain ⟨value, _, rfl⟩ := List.mem_map.1 inside
    exact ⟨value, rfl⟩

/-- The contraction of whole numbers. -/
def numeric [Platform] : Contraction Journal Datum Label where
  sum := fun data => liftM (Reduction.sum.apply data)
  product := fun left right => liftM (Binary.mul.apply left right)

attribute [local instance] Platform.usual in
/-- A product of two matrices, summed over the label that both share. -/
theorem contract_eq_bruteForce_matrices :
    let entries : List (Entry Int Label) :=
      [⟨.ofList [2, 2] [1, 2, 3, 4] rfl, [.int 0, .int 1]⟩,
        ⟨.ofList [2, 2] [5, 6, 7, 8] rfl, [.int 1, .int 2]⟩]
    let output : List Label := [.int 2, .int 0]
    Suited Label.number (fun _ => 2) entries output ∧
      (∀ entry ∈ entries, entry.tensor.shape.Numeric) ∧
      Roomy Shape.FitsSpread output (entries.map Entry.outline) ∧
      ∃ added, numeric.addAll (entries.map (Entry.image Datum.int)) = .ok added ∧
        ∃ result : Tensor Int,
          ((added.take (.ok output)).1.runOn #[]).1 = .ok (result.map Datum.int) ∧
          result.shape.values = [2, 2] ∧ ∀ within, result.get [1, 0] within = 31 := by
  intro entries output
  have suited : Suited Label.number (fun _ => 2) entries output := by
    constructor
    · simp [entries]
    · apply tells_inUse
      · intro entry inside
        simp [entries] at inside
        rcases inside with rfl | rfl
        · exact ⟨[0, 1], rfl⟩
        · exact ⟨[1, 2], rfl⟩
      · exact ⟨[2, 0], rfl⟩
    · intro entry inside
      simp [entries] at inside
      rcases inside with rfl | rfl <;> decide
    · intro entry inside
      simp [entries] at inside
      rcases inside with rfl | rfl <;> decide
    · decide
    · decide
  have typed : ∀ entry ∈ entries, entry.tensor.shape.Numeric := by decide
  have roomy : Roomy Shape.FitsSpread output (entries.map Entry.outline) := by decide +kernel
  obtain ⟨added, isAdded, result, ran, isShape, elements⟩ :=
    (contract_eq_bruteForce (σ := Journal) (L := Label)).2.1 Label.number (fun _ => 2) entries output
      suited typed roomy #[]
  refine ⟨suited, typed, roomy, added, isAdded, result, ran, isShape, fun within => ?_⟩
  rw [elements]
  decide +kernel

attribute [local instance] Platform.usual in
/-- Without room there may be no result: a tensor with 65 axes and a single element cannot be brought
into another order of its labels. -/
theorem contract_wide :
    let entries : List (Entry Int Label) := [⟨.ofList (List.replicate 65 1) [3] (by decide),
      (List.range 65).map fun (number : Nat) => .int number⟩]
    let output : List Label := [.int 0]
    Suited Label.number (fun _ => 1) entries output ∧
      bruteForce Arithmetic.integers Label.number (fun _ => 1) entries output [0] = 3 ∧
      (match numeric.addAll (entries.map (Entry.image Datum.int)) with
        | .error _ => none
        | .ok added =>
            match ((added.take (.ok output)).1.runOn #[]).1 with
            | .error fault => fault.message?
            | .ok _ => none) =
        some "maximum supported dimension for an ndarray is currently 64, found 65" := by
  intro entries output
  have suited : Suited Label.number (fun _ => 1) entries output := by
    constructor
    · simp [entries]
    · apply tells_inUse
      · intro entry inside
        rw [List.mem_singleton.1 inside]
        exact ⟨(List.range 65).map Int.ofNat, (List.map_map).symm⟩
      · exact ⟨[0], rfl⟩
    · intro entry inside
      rw [List.mem_singleton.1 inside]
      decide +kernel
    · intro entry inside
      rw [List.mem_singleton.1 inside]
      decide +kernel
    · decide
    · decide +kernel
  refine ⟨suited, ?_, ?_⟩
  · decide +kernel
  · decide +kernel

end Contraction

end TensorLogic
