/-
Module: TensorLogic.Proofs.Tensor.Capacity
Purpose: When the elements of a tensor can be laid out, gathered and spread over another shape.
Main exports: Shape.Numeric, Shape.FitsArray, Shape.FitsSpread, Shape.checkSpread_decides,
  Shape.checkRanges_eq_ok_iff, Shape.category_of_refused_ranges
-/
import TensorLogic.Tensor.Capacity
import Mathlib.Order.Basic

namespace TensorLogic

/-!
Two things can keep a tensor from being spread over another shape: an array has limits, and its dimensions
have to be given as numbers.  The limits are looked at together with the dimensions, check by check; within
the limits only a truth value among the dimensions is left to complain about.
-/

/-- A count that is given as a number. -/
def Count.IsNumber : Count → Prop
  | .number _ => True
  | .truth _ => False

instance (count : Count) : Decidable count.IsNumber :=
  match count with
  | .number _ => .isTrue trivial
  | .truth _ => .isFalse id

/-- A check accepts what lies within some limits and is well-typed; within the limits, everything else is of
a wrong type. -/
structure Decides (check : Except Fault Unit) (Limits Typed : Prop) : Prop where
  accepted : check = .ok () → Limits ∧ Typed
  ok : Limits → Typed → check = .ok ()
  wrongType : Limits → ¬Typed → check = .error .wrongType

namespace Decides

variable {check other : Except Fault Unit} {Limits Typed Others OtherTyped : Prop}

/-- What a check decides may be said in other words. -/
theorem congr (decides : Decides check Limits Typed) (limits : Others → Limits)
    (accepted : Limits → Typed → Others) (typed : Others → (Typed ↔ OtherTyped)) :
    Decides check Others OtherTyped where
  accepted passed :=
    have ⟨within, isTyped⟩ := decides.accepted passed
    have inside := accepted within isTyped
    ⟨inside, (typed inside).1 isTyped⟩
  ok inside isTyped := decides.ok (limits inside) ((typed inside).2 isTyped)
  wrongType inside untyped := decides.wrongType (limits inside) fun isTyped =>
    untyped ((typed inside).1 isTyped)

/-- One check after the other. -/
theorem bind (first : Decides check Limits Typed) (second : Decides other Others OtherTyped) :
    Decides (check >>= fun _ => other) (Limits ∧ Others) (Typed ∧ OtherTyped) where
  accepted passed := by
    cases outcome : check with
    | error fault =>
        rw [outcome] at passed
        cases passed
    | ok =>
        rw [outcome] at passed
        have later : other = .ok () := passed
        have ⟨inFirst, typedFirst⟩ := first.accepted outcome
        have ⟨inSecond, typedSecond⟩ := second.accepted later
        exact ⟨⟨inFirst, inSecond⟩, typedFirst, typedSecond⟩
  ok inside isTyped := by
    rw [first.ok inside.1 isTyped.1, second.ok inside.2 isTyped.2]
    rfl
  wrongType inside untyped := by
    by_cases typedFirst : Typed
    · rw [first.ok inside.1 typedFirst, second.wrongType inside.2 fun later =>
        untyped ⟨typedFirst, later⟩]
      rfl
    · rw [first.wrongType inside.1 typedFirst]
      rfl

/-- A check that comes after a limit. -/
theorem guarded {fault : Fault} {Exceeded : Prop} [Decidable Exceeded]
    (decides : Decides check Limits Typed) :
    Decides (if Exceeded then .error fault else check) (¬Exceeded ∧ Limits) Typed where
  accepted passed := by
    split at passed
    · cases passed
    · next inside =>
        have ⟨within, isTyped⟩ := decides.accepted passed
        exact ⟨⟨inside, within⟩, isTyped⟩
  ok inside isTyped := by rw [if_neg inside.1, decides.ok inside.2 isTyped]
  wrongType inside untyped := by rw [if_neg inside.1, decides.wrongType inside.2 untyped]

/-- Nothing is checked. -/
theorem nothing : Decides (.ok ()) True True :=
  ⟨fun _ => ⟨trivial, trivial⟩, fun _ _ => rfl, fun _ untyped => absurd trivial untyped⟩

/-- Everything lies outside the limits. -/
theorem refused {fault : Fault} : Decides (.error fault) False True :=
  ⟨(nomatch ·), False.elim, False.elim⟩

/-- The same check of all members of a list. -/
theorem forM {α : Type} {function : α → Except Fault Unit} {members : List α} {Inside Fine : α → Prop}
    (each : ∀ member ∈ members, Decides (function member) (Inside member) (Fine member)) :
    Decides (members.forM function) (∀ member ∈ members, Inside member)
      (∀ member ∈ members, Fine member) := by
  induction members with
  | nil => exact ⟨fun _ => by simp, fun _ _ => rfl, fun _ untyped => absurd (by simp) untyped⟩
  | cons member members hypothesis =>
      have here := each member (by simp)
      have later := hypothesis fun other listed => each other (by simp [listed])
      simpa using here.bind later

end Decides

namespace Shape

/-- Every dimension is given as a number. -/
def Numeric (shape : Shape) : Prop := ∀ dimension ∈ shape, dimension.IsNumber

instance (shape : Shape) : Decidable shape.Numeric :=
  inferInstanceAs (Decidable (∀ dimension ∈ shape, dimension.IsNumber))

/-- The limits of an array. -/
structure FitsArray [Platform] (shape : Shape) : Prop where
  axes : shape.length ≤ axisLimit
  extent : Fault.elementBytes * extent shape < wordLimit

/-- The limits within which a shape can be spread over another one.  A shape without axes has nothing to be
gathered along; to gather elements, the coordinates on every axis of the new shape have to be listed. -/
structure FitsSpread [Platform] (source target : Shape) : Prop where
  laidOut : source.FitsArray
  gathered : source ≠ [] → source.length ≤ gatherLimit
  listed : source ≠ [] → ∀ dimension ∈ target, rounded dimension.value < memoryLimit
  broadcast : target.FitsArray
  stored : target.size < memoryLimit

instance [Platform] (shape : Shape) : Decidable shape.FitsArray :=
  decidable_of_iff (shape.length ≤ axisLimit ∧ Fault.elementBytes * extent shape < wordLimit)
    ⟨fun ⟨axes, extent⟩ => ⟨axes, extent⟩, fun ⟨axes, extent⟩ => ⟨axes, extent⟩⟩

instance [Platform] (source target : Shape) : Decidable (FitsSpread source target) :=
  decidable_of_iff
    (source.FitsArray ∧ (source ≠ [] → source.length ≤ gatherLimit) ∧
      (source ≠ [] → ∀ dimension ∈ target, rounded dimension.value < memoryLimit) ∧
      target.FitsArray ∧ target.size < memoryLimit)
    ⟨fun ⟨laidOut, gathered, listed, broadcast, stored⟩ =>
        ⟨laidOut, gathered, listed, broadcast, stored⟩,
      fun ⟨laidOut, gathered, listed, broadcast, stored⟩ =>
        ⟨laidOut, gathered, listed, broadcast, stored⟩⟩

theorem extent_pos (shape : Shape) : 0 < extent shape := by
  induction shape with
  | nil => exact Nat.one_pos
  | cons dimension shape hypothesis =>
      apply Nat.mul_pos _ hypothesis
      split <;> omega

/-- No dimension is larger than the extent, which leaves out the empty ones only. -/
theorem value_le_extent {shape : Shape} {dimension : Count} (member : dimension ∈ shape) :
    dimension.value ≤ extent shape := by
  induction shape with
  | nil => simp at member
  | cons first shape hypothesis =>
      have positive : 0 < (if first.value = 0 then 1 else first.value) := by split <;> omega
      rcases List.mem_cons.1 member with rfl | later
      · calc dimension.value
          _ ≤ if dimension.value = 0 then 1 else dimension.value := by split <;> omega
          _ ≤ extent (dimension :: shape) := Nat.le_mul_of_pos_right _ (extent_pos shape)
      · exact Nat.le_trans (hypothesis later) (Nat.le_mul_of_pos_left _ positive)

/-- A product that leaves the range of a machine word has more factors than the storage allows. -/
theorem le_extent_of_overflows {product : Nat} {shape : Shape}
    (overflowing : overflows product shape = true) : wordLimit ≤ product * extent shape := by
  induction shape generalizing product with
  | nil => simp [overflows] at overflowing
  | cons dimension shape hypothesis =>
      have positive := (extent_pos shape)
      have limitPositive : 0 < wordLimit := by decide
      have reached : wordLimit ≤ product * dimension.value * extent shape := by
        rcases Bool.or_eq_true_iff.1 overflowing with here | later
        · exact Nat.le_trans (of_decide_eq_true here) (Nat.le_mul_of_pos_right _ positive)
        · exact hypothesis later
      have isNonzero : dimension.value ≠ 0 := by
        intro isZero
        simp [isZero] at reached
        omega
      simpa [extent, isNonzero, Nat.mul_assoc] using reached

/-- Within the limits of an array no product of leading dimensions leaves the range of a word. -/
theorem FitsArray.not_overflows [Platform] {shape : Shape} (fits : shape.FitsArray) :
    ¬overflows 1 shape = true := by
  intro overflowing
  have reached := le_extent_of_overflows overflowing
  have bound := fits.extent
  simp only [Fault.elementBytes] at bound
  omega

/-- Within the limits of an array every dimension fits into a word. -/
theorem FitsArray.value_lt [Platform] {shape : Shape} (fits : shape.FitsArray) :
    ∀ dimension ∈ shape, dimension.value < wordLimit := by
  intro dimension member
  have below := value_le_extent member
  have bound := fits.extent
  simp only [Fault.elementBytes] at bound
  omega

/-! ## The checks one by one -/

/-- The check of the axes decides their number. -/
theorem checkAxes_decides [Platform] (shape : Shape) :
    Decides (checkAxes shape) (shape.length ≤ axisLimit) True :=
  Decides.nothing.guarded.congr (fun inside => ⟨by omega, trivial⟩) (fun inside _ => by omega)
    fun _ => Iff.rfl

/-- The check of the dimensions decides whether they fit into words, and asks for numbers. -/
theorem checkDimensions_decides (huge : Fault) (shape : Shape) :
    Decides (checkDimensions huge shape) (∀ dimension ∈ shape, dimension.value < wordLimit)
      shape.Numeric := by
  induction shape with
  | nil => exact Decides.nothing.congr (by simp) (by simp) (by simp [Numeric])
  | cons dimension shape hypothesis =>
      cases dimension with
      | number number =>
          apply hypothesis.guarded.congr
          · simp
          · simp +contextual
          · simp [Numeric, Count.IsNumber]
      | truth value =>
          have untyped : ¬Numeric (.truth value :: shape) := by simp [Numeric, Count.IsNumber]
          exact ⟨fun passed => by simp [checkDimensions] at passed, fun _ typed => absurd typed untyped,
            fun _ _ => rfl⟩

theorem checkExtent_decides (shape : Shape) :
    Decides (checkExtent shape) (Fault.elementBytes * extent shape < wordLimit) True :=
  Decides.nothing.guarded.congr (fun inside => ⟨by omega, trivial⟩) (fun inside _ => by omega)
    fun _ => Iff.rfl

/-- The check of a layout decides whether the shape fits an array. -/
theorem checkLayout_decides [Platform] (shape : Shape) :
    Decides (checkLayout shape) shape.FitsArray shape.Numeric := by
  apply ((checkAxes_decides shape).bind ((checkDimensions_decides _ shape).bind
    (checkExtent_decides shape).guarded)).congr
  · exact fun fits => ⟨fits.axes, fits.value_lt, fits.not_overflows, fits.extent⟩
  · exact fun limits _ => ⟨limits.1, limits.2.2.2⟩
  · simp

/-- The check of a repetition decides whether the target fits an array, and whether there is memory for it.
-/
theorem checkBroadcast_decides [Platform] (target : Shape) :
    Decides (checkBroadcast target) (target.FitsArray ∧ target.size < memoryLimit) target.Numeric := by
  have stored : Decides (if memoryLimit ≤ target.size then .error (.arrayMemory target.size "object")
      else .ok ()) (¬memoryLimit ≤ target.size ∧ True) True := Decides.nothing.guarded
  apply ((checkAxes_decides target).bind ((checkDimensions_decides _ target).bind
    ((checkExtent_decides target).bind stored).guarded)).congr
  · rintro ⟨fits, small⟩
    exact ⟨fits.axes, fits.value_lt, fits.not_overflows, fits.extent, by omega, trivial⟩
  · rintro ⟨axes, _, _, extent, small, _⟩ _
    exact ⟨⟨axes, extent⟩, by omega⟩
  · simp

/-- Below the limit of memory, all coordinates are listed, and otherwise none at best. -/
theorem checkCoordinates_eq_ok [Platform] {dimension : Nat} :
    checkCoordinates dimension = .ok true ↔ rounded dimension < memoryLimit := by
  have memory : 8 * memoryLimit ≤ wordLimit := Platform.memory_addressed
  have word : wordLimit = 0x8000000000000000 := by decide
  have bytes : Fault.elementBytes * rounded dimension = 8 * rounded dimension := rfl
  constructor
  · intro listed
    unfold checkCoordinates at listed
    simp only [bytes] at listed
    split_ifs at listed
    · simp at listed
    · omega
  · intro small
    unfold checkCoordinates
    simp only [bytes]
    rw [if_neg (by omega), if_neg (by omega), if_neg (by omega), if_neg (by omega)]

/-- An axis beside axes of dimension one. -/
theorem forall_mem_line {Property : Count → Prop} {target : Shape} {axis : Nat} {dimension : Count}
    (inside : axis < target.length) (one : Property 1) :
    (∀ other ∈ (target.map fun _ => (1 : Count)).set axis dimension, Property other) ↔
      Property dimension := by
  constructor
  · exact fun all => all dimension (List.mem_set (by simpa using inside) dimension)
  · intro here other member
    rcases List.mem_or_eq_of_mem_set member with isOne | rfl
    · obtain ⟨_, _, rfl⟩ := List.mem_map.1 isOne
      exact one
    · exact here

/-- The check of one axis decides whether its coordinates can be listed, and laid out along it. -/
theorem checkAxis_decides [Platform] {target : Shape} {axis : Nat} {dimension : Count}
    (inside : axis < target.length) :
    Decides (checkAxis target axis dimension)
      (rounded dimension.value < memoryLimit ∧ target.length ≤ axisLimit ∧ dimension.value < wordLimit)
      dimension.IsNumber := by
  have line := checkDimensions_decides .hugeDimension
    ((target.map fun _ => (1 : Count)).set axis dimension)
  have rest : Decides _ (target.length ≤ axisLimit ∧ dimension.value < wordLimit) dimension.IsNumber :=
    ((checkAxes_decides target).bind (line.bind .nothing)).congr
    (fun limits => ⟨limits.1, (forall_mem_line inside (by decide)).2 limits.2, trivial⟩)
    (fun limits _ => ⟨limits.1, (forall_mem_line inside (by decide)).1 limits.2.1⟩)
    (fun _ => by
      simp only [true_and, and_true]
      exact forall_mem_line inside trivial)
  constructor
  · intro passed
    cases outcome : checkCoordinates dimension.value with
    | error fault =>
        rw [checkAxis, outcome] at passed
        cases passed
    | ok isListed =>
        rw [checkAxis, outcome] at passed
        cases isListed with
        | true =>
            have accepted := rest.accepted passed
            exact ⟨⟨checkCoordinates_eq_ok.1 outcome, accepted.1⟩, accepted.2⟩
        | false =>
            have accepted := ((checkAxes_decides target).bind (line.bind .refused)).accepted passed
            exact accepted.1.2.2.elim
  · intro limits typed
    rw [checkAxis, checkCoordinates_eq_ok.2 limits.1]
    exact rest.ok limits.2 typed
  · intro limits untyped
    rw [checkAxis, checkCoordinates_eq_ok.2 limits.1]
    exact rest.wrongType limits.2 untyped

/-- What is asked of every axis of a shape is asked of every dimension. -/
theorem forall_mem_zipIdx {Property : Count → Prop} {shape : Shape} :
    (∀ listed ∈ shape.zipIdx, Property listed.1) ↔ ∀ dimension ∈ shape, Property dimension := by
  constructor
  · intro all dimension member
    obtain ⟨place, inside, rfl⟩ := List.getElem_of_mem member
    exact all (shape[place], place) (List.mk_mem_zipIdx_iff_getElem?.2 (List.getElem?_eq_getElem inside))
  · exact fun all listed member => all _ (List.fst_mem_of_mem_zipIdx member)

/-- The check of gathering decides the number of axes that is gathered along, and each axis of the target.
-/
theorem checkGather_decides [Platform] (target : Shape) (order : Nat) :
    Decides (checkGather target order)
      (order ≤ gatherLimit ∧ ∀ dimension ∈ target, rounded dimension.value < memoryLimit ∧
        target.length ≤ axisLimit ∧ dimension.value < wordLimit)
      target.Numeric := by
  have each (listed : Count × Nat) (member : listed ∈ target.zipIdx) :
      Decides (checkAxis target listed.2 listed.1) _ listed.1.IsNumber :=
    checkAxis_decides (List.snd_lt_of_mem_zipIdx member)
  have counted : Decides (if gatherLimit < order then .error (.tooManyGathered gatherLimit order) else .ok ())
      (¬gatherLimit < order ∧ True) True := Decides.nothing.guarded
  apply ((Decides.forM each).bind counted).congr
  · rintro ⟨few, limits⟩
    exact ⟨forall_mem_zipIdx.2 limits, by omega, trivial⟩
  · rintro ⟨limits, few, _⟩ _
    exact ⟨by omega, forall_mem_zipIdx.1 limits⟩
  · intro _
    rw [and_true]
    exact forall_mem_zipIdx

/-- The check of spreading decides whether the arrays before and after fit, and asks for numbers. -/
theorem checkSpread_decides [Platform] (source target : Shape) :
    Decides (checkSpread source target) (FitsSpread source target)
      (source.Numeric ∧ target.Numeric) := by
  have laidOut := checkLayout_decides source
  have broadcast := checkBroadcast_decides target
  cases source with
  | nil =>
      apply (laidOut.bind (Decides.nothing.bind broadcast)).congr
      · exact fun fits => ⟨fits.laidOut, trivial, fits.broadcast, fits.stored⟩
      · rintro ⟨laidOut, _, fits, stored⟩ _
        exact ⟨laidOut, by simp, by simp, fits, stored⟩
      · simp
  | cons dimension source =>
      have isNonempty : dimension :: source ≠ [] := List.cons_ne_nil _ _
      apply (laidOut.bind ((checkGather_decides target (dimension :: source).length).bind broadcast)).congr
      · exact fun fits => ⟨fits.laidOut, ⟨fits.gathered isNonempty, fun other member =>
          ⟨fits.listed isNonempty other member, fits.broadcast.axes,
            fits.broadcast.value_lt other member⟩⟩, fits.broadcast, fits.stored⟩
      · rintro ⟨laidOut, ⟨few, limits⟩, fits, stored⟩ _
        exact ⟨laidOut, fun _ => few, fun _ other member => (limits other member).1, fits, stored⟩
      · simp

/-- The elements of a tensor pass all checks on the way to another shape. -/
def PassesSpread [Platform] (source target : Shape) : Prop := checkSpread source target = .ok ()

instance [Platform] (source target : Shape) : Decidable (PassesSpread source target) :=
  match checked : checkSpread source target with
  | .ok () => .isTrue checked
  | .error _ => .isFalse fun passed => nomatch checked.symm.trans passed

/-- Where all dimensions are numbers, the limits of arrays decide. -/
theorem passesSpread_iff [Platform] {source target : Shape} (typed : source.Numeric)
    (typedTarget : target.Numeric) :
    PassesSpread source target ↔ FitsSpread source target :=
  ⟨fun passed => ((checkSpread_decides source target).accepted passed).1,
    fun fits => (checkSpread_decides source target).ok fits ⟨typed, typedTarget⟩⟩

/-! ## Listing coordinates -/

/-- The coordinates on every axis can be listed one by one. -/
def Listable [Platform] (shape : Shape) : Prop := ∀ dimension ∈ shape, dimension.value < memoryLimit

instance [Platform] (shape : Shape) : Decidable shape.Listable :=
  inferInstanceAs (Decidable (∀ dimension ∈ shape, dimension.value < memoryLimit))

/-- Coordinates can be listed below numbers that are all below the limit of memory. -/
theorem checkRanges_eq_ok_iff [Platform] {dimensions : List Whole} :
    checkRanges dimensions = .ok () ↔ ∀ dimension ∈ dimensions, dimension.value < memoryLimit := by
  have limits := Platform.memoryLimit_le_wordLimit
  have each (dimension : Whole) : Decides
      (if (wordLimit : Int) ≤ dimension.value then .error .hugeAxis
        else if (memoryLimit : Int) ≤ dimension.value then .error .outOfMemory else .ok ())
      (dimension.value < memoryLimit) True :=
    Decides.nothing.guarded.guarded.congr (fun inside => ⟨by omega, by omega, trivial⟩)
      (fun inside _ => by omega) fun _ => Iff.rfl
  have all : Decides (checkRanges dimensions) _ _ := Decides.forM fun dimension _ => each dimension
  simp only [List.mem_reverse] at all
  exact ⟨fun passed => (all.accepted passed).1, fun below => all.ok below (by simp)⟩

/-- The coordinates within a shape can be listed exactly when it is listable. -/
theorem checkRanges_eq_ok [Platform] {shape : Shape} :
    checkRanges (shape.map Count.toWhole) = .ok () ↔ shape.Listable := by
  simp [checkRanges_eq_ok_iff, Listable]

/-- What keeps coordinates from being listed is a number beyond a machine word, or a want of memory. -/
theorem category_of_refused_ranges [Platform] {dimensions : List Whole} {fault : Fault}
    (refused : checkRanges dimensions = .error fault) :
    fault.category = .overflow ∨ fault.category = .memory := by
  unfold checkRanges at refused
  generalize dimensions.reverse = members at refused
  induction members with
  | nil => cases refused
  | cons dimension rest hypothesis =>
      simp only [List.forM_eq_forM, List.forM_cons] at refused hypothesis
      split_ifs at refused
      · obtain rfl : Fault.hugeAxis = fault := Except.error.inj refused
        exact .inl rfl
      · obtain rfl : Fault.outOfMemory = fault := Except.error.inj refused
        exact .inr rfl
      · exact hypothesis refused

/-- Where coordinates cannot be listed, that is a number beyond a word or a want of memory. -/
theorem exists_refused_ranges [Platform] {dimensions : List Whole}
    (notBelow : ¬∀ dimension ∈ dimensions, dimension.value < memoryLimit) :
    ∃ fault, (fault.category = .overflow ∨ fault.category = .memory) ∧
      checkRanges dimensions = .error fault := by
  cases checked : checkRanges dimensions with
  | ok => exact absurd (checkRanges_eq_ok_iff.1 checked) notBelow
  | error fault => exact ⟨fault, category_of_refused_ranges checked, rfl⟩

theorem exists_refused_shape [Platform] {shape : Shape} (unlistable : ¬shape.Listable) :
    ∃ fault, (fault.category = .overflow ∨ fault.category = .memory) ∧
      checkRanges (shape.map Count.toWhole) = .error fault :=
  exists_refused_ranges fun below =>
    unlistable (checkRanges_eq_ok.1 (checkRanges_eq_ok_iff.2 below))

/-- What keeps coordinates from being listed is not a wrong value. -/
theorem category_of_checkRanges [Platform] {dimensions : List Whole} {fault : Fault}
    (refused : checkRanges dimensions = .error fault) : fault.category ≠ .value := by
  rcases category_of_refused_ranges refused with overflow | memory
  · rw [overflow]
    decide
  · rw [memory]
    decide

end Shape

end TensorLogic
