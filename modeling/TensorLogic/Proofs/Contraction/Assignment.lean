/-
Module: TensorLogic.Proofs.Contraction.Assignment
Purpose: Sums over all assignments of coordinates to labels.
Main exports: Arithmetic, Arithmetic.total, assignments, mem_assignments, nodup_assignments,
  indices_eq_assignments, Keeps, Arithmetic.summed
-/
import Mathlib.Data.List.Perm.Basic
import Mathlib.Data.List.Nodup
import Mathlib.Logic.Function.Basic
import TensorLogic.Shape

namespace TensorLogic

/-!
A contraction sums products over coordinates of labels.  Here an assignment gives a coordinate to
every label, and only those labels matter that are summed over: all others keep the coordinate that
they have in a given assignment.  The sum over some labels and then over further ones is the sum over
all of them at once, and it does not depend on the order of the labels.
-/

/-- A commutative sum, and a product that distributes over it from the right. -/
structure Arithmetic (M : Type) where
  zero : M
  plus : M → M → M
  times : M → M → M
  plus_assoc : ∀ first second third,
    plus (plus first second) third = plus first (plus second third)
  plus_comm : ∀ first second, plus first second = plus second first
  zero_plus : ∀ element, plus zero element = element
  plus_times : ∀ first second third,
    times (plus first second) third = plus (times first third) (times second third)
  zero_times : ∀ element, times zero element = zero

namespace Arithmetic

variable {M : Type} (arithmetic : Arithmetic M)

/-- The sum of a list. -/
def total (members : List M) : M := members.foldr arithmetic.plus arithmetic.zero

/-- The total of two lists is the sum of their totals. -/
theorem total_append (first second : List M) :
    arithmetic.total (first ++ second) =
      arithmetic.plus (arithmetic.total first) (arithmetic.total second) := by
  induction first with
  | nil => exact (arithmetic.zero_plus _).symm
  | cons member first hypothesis =>
      change arithmetic.plus member (arithmetic.total (first ++ second)) = _
      rw [hypothesis, ← arithmetic.plus_assoc]
      rfl

/-- A total may be taken of the totals of the pieces. -/
theorem total_flatMap {α : Type} (members : List α) (function : α → List M) :
    arithmetic.total (members.flatMap function) =
      arithmetic.total (members.map fun member => arithmetic.total (function member)) := by
  induction members with
  | nil => rfl
  | cons member members hypothesis =>
      rw [List.flatMap_cons, total_append, hypothesis]
      rfl

/-- The order of the members does not matter to their total. -/
theorem total_perm {members others : List M} (perm : members.Perm others) :
    arithmetic.total members = arithmetic.total others := by
  induction perm with
  | nil => rfl
  | cons member _ hypothesis => exact congrArg (arithmetic.plus member) hypothesis
  | swap first second rest =>
      change arithmetic.plus second (arithmetic.plus first _) =
        arithmetic.plus first (arithmetic.plus second _)
      rw [← arithmetic.plus_assoc, arithmetic.plus_comm second first, arithmetic.plus_assoc]
  | trans _ _ first second => exact first.trans second

/-- A factor on the right can be drawn out of a sum. -/
theorem total_times (members : List M) (factor : M) :
    arithmetic.times (arithmetic.total members) factor =
      arithmetic.total (members.map fun member => arithmetic.times member factor) := by
  induction members with
  | nil => exact arithmetic.zero_times factor
  | cons member members hypothesis =>
      change arithmetic.times (arithmetic.plus member (arithmetic.total members)) factor = _
      rw [arithmetic.plus_times, hypothesis]
      rfl

end Arithmetic

/-! ## Assignments -/

section

variable {K : Type} [DecidableEq K]

/-- All assignments that give each of the keys a coordinate below its dimension, and agree with a
given one on all other keys.  The coordinate of the first key varies fastest. -/
def assignments (dim : K → Nat) : List K → (K → Nat) → List (K → Nat)
  | [], place => [place]
  | key :: keys, place =>
      (assignments dim keys place).flatMap fun other =>
        (List.range (dim key)).map (Function.update other key)

variable {dim : K → Nat} {keys others : List K} {place : K → Nat}

theorem mem_assignments_cons {key : K} {other : K → Nat} :
    other ∈ assignments dim (key :: keys) place ↔
      ∃ rest ∈ assignments dim keys place, ∃ coordinate < dim key,
        Function.update rest key coordinate = other := by
  simp [assignments]

/-- What is listed are the assignments that keep to the dimensions of the keys and to the given
assignment elsewhere. -/
theorem mem_assignments (different : keys.Nodup) {other : K → Nat} :
    other ∈ assignments dim keys place ↔
      (∀ key ∈ keys, other key < dim key) ∧ ∀ key, key ∉ keys → other key = place key := by
  induction keys generalizing other with
  | nil =>
      simp only [assignments, List.mem_singleton, List.not_mem_nil, not_false_eq_true]
      constructor
      · rintro rfl
        exact ⟨fun _ none => none.elim, fun _ _ => rfl⟩
      · intro agrees
        exact funext fun key => agrees.2 key trivial
  | cons first keys hypothesis =>
      obtain ⟨absent, rest⟩ := List.nodup_cons.1 different
      rw [mem_assignments_cons]
      constructor
      · rintro ⟨earlier, inside, coordinate, bound, rfl⟩
        obtain ⟨below, outside⟩ := (hypothesis rest).1 inside
        constructor
        · intro key among
          by_cases same : key = first
          · rw [same, Function.update_self]
            exact bound
          · rw [Function.update_of_ne same]
            exact below key ((List.mem_cons.1 among).resolve_left same)
        · intro key elsewhere
          obtain ⟨distinct, later⟩ := not_or.1 (List.mem_cons.not.1 elsewhere)
          rw [Function.update_of_ne distinct]
          exact outside key later
      · rintro ⟨below, outside⟩
        refine ⟨Function.update other first (place first), (hypothesis rest).2 ⟨?_, ?_⟩, other first,
          below first List.mem_cons_self, ?_⟩
        · intro key among
          have distinct : key ≠ first := fun same => absent (same ▸ among)
          rw [Function.update_of_ne distinct]
          exact below key (List.mem_cons_of_mem _ among)
        · intro key elsewhere
          by_cases same : key = first
          · rw [same, Function.update_self]
          · rw [Function.update_of_ne same]
            exact outside key fun among => (List.mem_cons.1 among).elim same elsewhere
        · rw [Function.update_idem, Function.update_eq_self]

/-- No assignment is listed twice. -/
theorem nodup_assignments (different : keys.Nodup) : (assignments dim keys place).Nodup := by
  induction keys with
  | nil => exact List.nodup_singleton place
  | cons first keys hypothesis =>
      obtain ⟨absent, rest⟩ := List.nodup_cons.1 different
      rw [assignments, List.nodup_flatMap]
      constructor
      · intro other _
        exact List.nodup_range.map (Function.update_injective other first)
      · apply (List.Pairwise.and_mem.1 (hypothesis rest)).imp
        rintro left right ⟨insideLeft, insideRight, distinct⟩ other fromLeft fromRight
        obtain ⟨_, _, rfl⟩ := List.mem_map.1 fromLeft
        obtain ⟨_, _, same⟩ := List.mem_map.1 fromRight
        apply distinct
        funext key
        by_cases isFirst : key = first
        · rw [isFirst, ((mem_assignments rest).1 insideLeft).2 first absent,
            ((mem_assignments rest).1 insideRight).2 first absent]
        · have here := congrFun same key
          rw [Function.update_of_ne isFirst, Function.update_of_ne isFirst] at here
          exact here.symm

/-- What is assigned to the keys of two lists is assigned to those of the second first. -/
theorem assignments_append (keys others : List K) :
    assignments dim (keys ++ others) place =
      (assignments dim others place).flatMap (assignments dim keys) := by
  induction keys with
  | nil => exact (List.flatMap_singleton' _).symm
  | cons key keys hypothesis =>
      rw [List.cons_append, assignments, hypothesis, List.flatMap_assoc]
      rfl

/-- The order of the keys only matters to the order in which the assignments come. -/
theorem assignments_perm (different : keys.Nodup) (perm : keys.Perm others) :
    (assignments dim keys place).Perm (assignments dim others place) := by
  have differentOthers := perm.nodup_iff.1 different
  rw [List.perm_ext_iff_of_nodup (nodup_assignments different) (nodup_assignments differentOthers)]
  intro other
  rw [mem_assignments different, mem_assignments differentOthers]
  simp only [perm.mem_iff]

variable (place) in
/-- The indices within a shape are the coordinates that assignments give to its labels. -/
theorem indices_eq_assignments {shape : Shape} (different : keys.Nodup)
    (isShape : shape.values = keys.map dim) :
    shape.indices = (assignments dim keys place).map fun other => keys.map other := by
  induction keys generalizing shape with
  | nil =>
      rw [List.map_eq_nil_iff.1 isShape]
      rfl
  | cons first keys hypothesis =>
      obtain ⟨absent, rest⟩ := List.nodup_cons.1 different
      obtain ⟨dimension, shape, rfl, isFirst, isRest⟩ := List.map_eq_cons_iff.1 isShape
      rw [Shape.indices_cons, hypothesis rest isRest, assignments, List.flatMap_map, List.map_flatMap,
        isFirst]
      apply congrArg (fun function => (assignments dim keys place).flatMap function)
      funext other
      rw [List.map_map]
      apply List.map_congr_left
      intro coordinate _
      have unchanged : keys.map (Function.update other first coordinate) = keys.map other := by
        apply List.map_congr_left
        intro key among
        have distinct : key ≠ first := fun same => absent (same ▸ among)
        rw [Function.update_of_ne distinct]
      simp [unchanged]

/-! ## Assignments that keep to the dimensions -/

/-- An assignment keeps to the dimensions of some keys. -/
def Keeps (dim : K → Nat) (keys : List K) (place : K → Nat) : Prop := ∀ key ∈ keys, place key < dim key

namespace Keeps

omit [DecidableEq K] in
theorem of_subset (keeps : Keeps dim keys place) (subset : ∀ key ∈ others, key ∈ keys) :
    Keeps dim others place :=
  fun key inside => keeps key (subset key inside)

omit [DecidableEq K] in
/-- The coordinates that an assignment gives to labels lie within their dimensions. -/
theorem within {shape : Shape} (isShape : shape.values = keys.map dim) (keeps : Keeps dim keys place) :
    Within (keys.map place) shape := by
  induction keys generalizing shape with
  | nil =>
      rw [List.map_eq_nil_iff.1 isShape]
      trivial
  | cons key keys hypothesis =>
      obtain ⟨dimension, shape, rfl, isFirst, isRest⟩ := List.map_eq_cons_iff.1 isShape
      constructor
      · rw [isFirst]
        exact keeps key List.mem_cons_self
      · exact hypothesis isRest fun other inside => keeps other (List.mem_cons_of_mem _ inside)

/-- An assignment of coordinates to further keys keeps to their dimensions, too. -/
theorem extend {other : K → Nat} (keeps : Keeps dim others place) (different : keys.Nodup)
    (inside : other ∈ assignments dim keys place) : Keeps dim (keys ++ others) other := by
  obtain ⟨below, elsewhere⟩ := (mem_assignments different).1 inside
  intro own among
  by_cases further : own ∈ keys
  · exact below own further
  · rw [elsewhere own further]
    exact keeps own ((List.mem_append.1 among).resolve_left further)

end Keeps

end

/-! ## Sums over assignments -/

namespace Arithmetic

variable {M K : Type} [DecidableEq K] (arithmetic : Arithmetic M) {dim : K → Nat} {keys others : List K}
  {place : K → Nat}

/-- The sum of a function over all assignments of some keys. -/
def summed (dim : K → Nat) (keys : List K) (function : (K → Nat) → M) (place : K → Nat) : M :=
  arithmetic.total ((assignments dim keys place).map function)

theorem summed_nil (function : (K → Nat) → M) :
    arithmetic.summed dim [] function place = function place :=
  (arithmetic.plus_comm _ _).trans (arithmetic.zero_plus _)

theorem summed_congr {function other : (K → Nat) → M}
    (same : ∀ assignment ∈ assignments dim keys place, function assignment = other assignment) :
    arithmetic.summed dim keys function place = arithmetic.summed dim keys other place :=
  congrArg arithmetic.total (List.map_congr_left same)

/-- Summing over two lists of keys is summing over one of them inside the sum over the other. -/
theorem summed_append (function : (K → Nat) → M) :
    arithmetic.summed dim (keys ++ others) function place =
      arithmetic.summed dim others (arithmetic.summed dim keys function) place := by
  unfold summed
  rw [assignments_append, List.map_flatMap, total_flatMap]

/-- The order of the keys does not matter to a sum over what is assigned to them. -/
theorem summed_perm (different : keys.Nodup) (perm : keys.Perm others) (function : (K → Nat) → M) :
    arithmetic.summed dim keys function place = arithmetic.summed dim others function place :=
  arithmetic.total_perm ((assignments_perm different perm).map function)

/-- A factor that does not depend on the keys can be drawn out of the sum. -/
theorem summed_times (function factor : (K → Nat) → M)
    (constant : ∀ assignment ∈ assignments dim keys place, factor assignment = factor place) :
    arithmetic.times (arithmetic.summed dim keys function place) (factor place) =
      arithmetic.summed dim keys
        (fun assignment => arithmetic.times (function assignment) (factor assignment)) place := by
  have drawn : arithmetic.summed dim keys
      (fun assignment => arithmetic.times (function assignment) (factor assignment)) place =
      arithmetic.summed dim keys
        (fun assignment => arithmetic.times (function assignment) (factor place)) place :=
    arithmetic.summed_congr fun assignment inside => by rw [constant assignment inside]
  unfold summed at *
  rw [drawn, total_times, List.map_map]
  rfl

end Arithmetic

end TensorLogic
