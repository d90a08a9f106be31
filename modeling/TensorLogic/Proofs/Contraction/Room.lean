/-
Module: TensorLogic.Proofs.Contraction.Room
Purpose: Which arrays a contraction needs room for, read off the labels and dimensions alone.
Main exports: Contraction.Entry.outline, Contraction.Room, Contraction.RoomFor, Contraction.Roomy,
  Contraction.roomy_iff, Contraction.NoRoom, Contraction.Provided, Contraction.Gives
-/
import TensorLogic.Proofs.Contraction.Labels
import TensorLogic.Proofs.Effect.Run
import TensorLogic.Proofs.Tensor.Capacity

namespace TensorLogic.Contraction

/-!
A tensor is rearranged in an array, and arrays have limits.  Which tensors a contraction rearranges,
and into which shapes, depends on the labels and the dimensions only: the outline of an entry is what
is left of it when its elements are forgotten.  The steps of a contraction are repeated here on
outlines, with the demand that there is room for each rearrangement.

What counts as room is left open: a contraction runs as far as the shapes pass its checks, and where all
dimensions are numbers, these come to the limits of arrays.
-/

variable {V L : Type} [AxisLabel L]

/-- The labels of an entry, each with its dimension. -/
def Entry.outline (entry : Entry V L) : Dimensions L := entry.labels.zip entry.tensor.shape

namespace Dimensions

/-- The labels of an outline. -/
def labels (outline : Dimensions L) : List L := outline.map Prod.fst

/-- The shape of an outline. -/
def shape (outline : Dimensions L) : Shape := outline.map Prod.snd

/-- Labels with the dimensions that an outline gives to them. -/
def spanning (outline : Dimensions L) (labels : List L) : Dimensions L :=
  labels.map fun label => (label, dimensionOf outline label)

/-- The outline in the order of the labels. -/
def arranged (order : List L) (outline : Dimensions L) : Dimensions L :=
  if ordered order outline.labels == outline.labels then outline
  else outline.spanning (ordered order outline.labels)

/-- The outline of a product. -/
def joined (order : List L) (left right : Dimensions L) : Dimensions L :=
  spanning (left ++ right) (ordered order (left.labels ++ right.labels))

/-- The part of an outline that is needed. -/
def kept (needed : List L) (outline : Dimensions L) : Dimensions L :=
  outline.filter fun pair => needed.elem pair.1

/-- The part of an outline that is not needed. -/
def gone (needed : List L) (outline : Dimensions L) : Dimensions L :=
  outline.filter fun pair => !needed.elem pair.1

/-- The part of an outline that is not needed, in front of the other one. -/
def sorted (needed : List L) (outline : Dimensions L) : Dimensions L :=
  outline.gone needed ++ outline.kept needed

end Dimensions

section

variable (enough : Shape → Shape → Prop)

/-- There is room to rearrange one outline into another: the labels do not even move, or there is enough of
it between the two shapes. -/
def Room (source target : Dimensions L) : Prop :=
  (target.labels == source.labels) = true ∨ enough source.shape target.shape

/-- There is room to multiply an accumulated outline with all those still to come. -/
def RoomFor (order output : List L) (accumulated : Dimensions L) : List (Dimensions L) → Prop
  | [] => True
  | next :: rest =>
      let arranged := next.arranged order
      let joined := Dimensions.joined order accumulated arranged
      let needed := rest.flatMap Dimensions.labels ++ output
      Room enough next arranged ∧ Room enough accumulated joined ∧ Room enough arranged joined ∧
        Room enough joined (joined.sorted needed) ∧ RoomFor order output (joined.kept needed) rest

/-- There is room for each rearrangement in a contraction of tensors that are added in order. -/
def Roomy (output : List L) : List (Dimensions L) → Prop
  | [] => True
  | first :: rest =>
      let order := touch (touch [] ((first :: rest).flatMap Dimensions.labels)) output
      let arranged := first.arranged order
      let needed := rest.flatMap Dimensions.labels ++ output
      Room enough first arranged ∧ Room enough arranged (arranged.sorted needed) ∧
        RoomFor enough order output (arranged.kept needed) rest

variable [∀ source target, Decidable (enough source target)]

instance (source target : Dimensions L) : Decidable (Room enough source target) :=
  inferInstanceAs (Decidable (_ ∨ _))

instance decidableRoomFor (order output : List L) (accumulated : Dimensions L) :
    (outlines : List (Dimensions L)) → Decidable (RoomFor enough order output accumulated outlines)
  | [] => .isTrue trivial
  | next :: rest =>
      haveI := decidableRoomFor order output ((Dimensions.joined order accumulated
        (next.arranged order)).kept (rest.flatMap Dimensions.labels ++ output)) rest
      inferInstanceAs (Decidable (_ ∧ _ ∧ _ ∧ _ ∧ _))

instance (output : List L) :
    (outlines : List (Dimensions L)) → Decidable (Roomy enough output outlines)
  | [] => .isTrue trivial
  | _ :: _ => inferInstanceAs (Decidable (_ ∧ _ ∧ _))

end

section

variable {enough : Shape → Shape → Prop}

variable (enough) in
/-- There is room for one step of a contraction. -/
def RoomStep (order needed : List L) (accumulated next : Dimensions L) : Prop :=
  let arranged := next.arranged order
  let joined := Dimensions.joined order accumulated arranged
  Room enough next arranged ∧ (Room enough accumulated joined ∧ Room enough arranged joined) ∧
    Room enough joined (joined.sorted needed)

/-- There is room for a contraction that goes on when there is room for the next step, and for the rest from
what that leaves. -/
theorem roomFor_cons {order output : List L} {accumulated next : Dimensions L}
    {rest : List (Dimensions L)} :
    RoomFor enough order output accumulated (next :: rest) ↔
      RoomStep enough order (rest.flatMap Dimensions.labels ++ output) accumulated next ∧
        RoomFor enough order output ((Dimensions.joined order accumulated (next.arranged order)).kept
          (rest.flatMap Dimensions.labels ++ output)) rest := by
  simp only [RoomFor, RoomStep, and_assoc]

end

/-! ## Outlines of numbers -/

section

variable {order output : List L} {outline left right : Dimensions L}

namespace Dimensions

/-- Every dimension of an outline is given as a number. -/
def Numeric (outline : Dimensions L) : Prop := ∀ pair ∈ outline, pair.2.IsNumber

omit [AxisLabel L] in
theorem Numeric.shape (typed : outline.Numeric) : outline.shape.Numeric := by
  intro dimension inside
  obtain ⟨pair, among, rfl⟩ := List.mem_map.1 inside
  exact typed pair among

omit [AxisLabel L] in
/-- The dimensions of two outlines of numbers are numbers. -/
theorem Numeric.append (typedLeft : left.Numeric) (typedRight : right.Numeric) :
    Numeric (left ++ right) :=
  fun pair inside => (List.mem_append.1 inside).elim (typedLeft pair) (typedRight pair)

/-- The dimension of a label in an outline of numbers is a number; a label that is not there counts as
having the number zero. -/
theorem Numeric.dimensionOf (typed : outline.Numeric) (label : L) :
    (dimensionOf outline label).IsNumber := by
  induction outline with
  | nil => trivial
  | cons pair outline hypothesis =>
      have rest := hypothesis fun other inside => typed other (List.mem_cons_of_mem _ inside)
      rw [Contraction.dimensionOf, List.lookup_cons]
      split
      · exact typed pair List.mem_cons_self
      · exact rest

/-- Labels are spanned with dimensions of the outline, which are numbers. -/
theorem Numeric.spanning (typed : outline.Numeric) (labels : List L) :
    (outline.spanning labels).Numeric := by
  intro pair inside
  obtain ⟨label, _, rfl⟩ := List.mem_map.1 inside
  exact typed.dimensionOf label

theorem Numeric.arranged (typed : outline.Numeric) (order : List L) :
    (outline.arranged order).Numeric := by
  unfold Dimensions.arranged
  split
  · exact typed
  · exact typed.spanning _

/-- Joining outlines of numbers gives one. -/
theorem Numeric.joined (typedLeft : left.Numeric) (typedRight : right.Numeric) (order : List L) :
    (Dimensions.joined order left right).Numeric :=
  (typedLeft.append typedRight).spanning _

theorem Numeric.kept (typed : outline.Numeric) (needed : List L) : (outline.kept needed).Numeric :=
  fun pair inside => typed pair (List.mem_of_mem_filter inside)

theorem Numeric.sorted (typed : outline.Numeric) (needed : List L) : (outline.sorted needed).Numeric :=
  Numeric.append (fun pair inside => typed pair (List.mem_of_mem_filter inside)) (typed.kept needed)

end Dimensions

/-- Between outlines of numbers, there is room within the limits exactly when the checks pass. -/
theorem room_iff [Platform] (typedLeft : left.Numeric) (typedRight : right.Numeric) :
    Room Shape.FitsSpread left right ↔ Room Shape.PassesSpread left right :=
  or_congr_right (Shape.passesSpread_iff typedLeft.shape typedRight.shape).symm

/-- From outlines of numbers on, there is room within the limits at each step exactly when the checks pass
at each. -/
theorem roomFor_iff [Platform] {outlines : List (Dimensions L)} (typed : outline.Numeric)
    (typedAll : ∀ other ∈ outlines, other.Numeric) :
    RoomFor Shape.FitsSpread order output outline outlines ↔
      RoomFor Shape.PassesSpread order output outline outlines := by
  induction outlines generalizing outline with
  | nil => exact Iff.rfl
  | cons next rest hypothesis =>
      have typedNext := typedAll next List.mem_cons_self
      have arranged := typedNext.arranged order
      have joined := typed.joined arranged order
      have later := hypothesis (joined.kept (rest.flatMap Dimensions.labels ++ output))
        fun other inside => typedAll other (List.mem_cons_of_mem _ inside)
      rw [roomFor_cons, roomFor_cons, later, RoomStep, RoomStep, room_iff typedNext arranged,
        room_iff typed joined, room_iff arranged joined, room_iff joined (joined.sorted _)]

omit [AxisLabel L] in
theorem numeric_outlines {entries : List (Entry V L)}
    (typed : ∀ entry ∈ entries, entry.tensor.shape.Numeric) :
    ∀ outline ∈ entries.map Entry.outline, outline.Numeric := by
  intro outline inside pair among
  obtain ⟨entry, isEntry, rfl⟩ := List.mem_map.1 inside
  exact typed entry isEntry pair.2 (List.of_mem_zip among).2

/-- Where all dimensions are numbers, there is room as far as arrays can be laid out. -/
theorem roomy_iff [Platform] {outlines : List (Dimensions L)}
    (typed : ∀ outline ∈ outlines, outline.Numeric) :
    Roomy Shape.FitsSpread output outlines ↔ Roomy Shape.PassesSpread output outlines := by
  cases outlines with
  | nil => exact Iff.rfl
  | cons first rest =>
      have typedFirst := typed first List.mem_cons_self
      have typedRest : ∀ other ∈ rest, other.Numeric :=
        fun other inside => typed other (List.mem_cons_of_mem _ inside)
      have arranged := typedFirst.arranged (touch (touch [] ((first :: rest).flatMap Dimensions.labels))
        output)
      rw [Roomy, Roomy, room_iff typedFirst arranged, room_iff arranged (arranged.sorted _),
        roomFor_iff (arranged.kept _) typedRest]

end

/-! ## Results that there has to be room for -/

/-- A fault that says that the elements of some tensor cannot be spread over some shape. -/
def NoRoom [Platform] (fault : Fault) : Prop :=
  ∃ source target, Shape.checkSpread source target = .error fault

/-- Where there is room, the outcome is the result; otherwise it is a fault that says that there is none. -/
inductive Provided [Platform] {α : Type} (room : Prop) (result : α) : Except Fault α → Prop where
  | given (enough : room) : Provided room result (.ok result)
  | crowded {fault : Fault} (short : ¬room) (isShort : NoRoom fault) :
      Provided room result (.error fault)

/-- A computation leaves the state as it is, and gives the result where there is room. -/
def Gives [Platform] {σ α : Type} (room : Prop) (result : α) (action : Act σ α) (state : σ) : Prop :=
  ∃ outcome, action.runOn state = (outcome, state) ∧ Provided room result outcome

section

variable [Platform] {σ α β : Type} {room further : Prop} {result : α} {final : β} {outcome : Except Fault α}
  {action : Act σ α} {next : α → Act σ β} {state : σ}

/-- Where there is room, the result is provided. -/
theorem Provided.eq_ok (provided : Provided room result outcome) (enough : room) :
    outcome = .ok result := by
  cases provided with
  | given => rfl
  | crowded short => exact absurd enough short

theorem Provided.of_iff (same : room ↔ further) (provided : Provided room result outcome) :
    Provided further result outcome :=
  propext same ▸ provided

/-- A function of what is provided with room is provided with the same room. -/
theorem Provided.map (function : α → β) (provided : Provided room result outcome) :
    Provided room (function result) (outcome.map function) := by
  cases provided with
  | given enough => exact .given enough
  | crowded short isShort => exact .crowded short isShort

namespace Gives

theorem of_run (ran : action.runOn state = (.ok result, state)) : Gives True result action state :=
  ⟨_, ran, .given trivial⟩

theorem lift (provided : Provided room result outcome) :
    Gives room result (liftM outcome : Act σ α) state :=
  ⟨outcome, rfl, provided⟩

theorem of_iff (same : room ↔ further) (gives : Gives room result action state) :
    Gives further result action state :=
  propext same ▸ gives

/-- Where there is room, the computation gives its result and leaves the state alone. -/
theorem run_eq (gives : Gives room result action state) (enough : room) :
    action.runOn state = (.ok result, state) := by
  obtain ⟨outcome, ran, provided⟩ := gives
  rw [ran, provided.eq_ok enough]

/-- There has to be room for the first step, and for what comes after it. -/
theorem bind (gives : Gives room result action state)
    (rest : Gives further final (next result) state) :
    Gives (room ∧ further) final (action >>= next) state := by
  obtain ⟨outcome, ran, provided⟩ := gives
  obtain ⟨last, ranRest, providedRest⟩ := rest
  cases provided with
  | crowded short isShort =>
      exact ⟨_, Act.runOn_bind_error ran next, .crowded (fun both => short both.1) isShort⟩
  | given enough =>
      refine ⟨last, (Act.runOn_bind_ok ran next).trans ranRest, ?_⟩
      exact providedRest.of_iff ⟨fun later => ⟨enough, later⟩, And.right⟩

/-- Where the rest of a computation gives its result anyway, only the first part needs room. -/
theorem bindOk (gives : Gives room result action state)
    (ran : (next result).runOn state = (.ok final, state)) : Gives room final (action >>= next) state :=
  (gives.bind (of_run ran)).of_iff (iff_of_eq (and_true room))

end Gives

end

end TensorLogic.Contraction
