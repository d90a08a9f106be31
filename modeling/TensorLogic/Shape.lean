/-
Module: TensorLogic.Shape
Purpose: Shapes, the indices within a shape, and the storage order of the indices.
Main exports: Shape, Index, Within, Shape.values, Shape.Agree, Shape.size, Shape.position,
  Shape.index, Shape.indices, Shape.ofWholes, Shape.locate, position_lt, within_index,
  position_index, index_position, mem_indices, indices_cons
-/
import TensorLogic.Fault

namespace TensorLogic

/-!
The indices of a shape are stored so that the first coordinate varies fastest: the index is a number
in mixed radix whose least significant digit is the first coordinate, and the dimensions are the
bases.  `Shape.position` reads that number and `Shape.index` writes it; the two are inverse between
the indices within the shape and the numbers below its size.

Dimensions are kept as they are given.  Two shapes agree when their dimensions have the same values.
-/

/-- The dimensions of a tensor, one for each axis. -/
abbrev Shape := List Count

/-- The coordinates of one element, one for each axis. -/
abbrev Index := List Nat

/-- An index lies within a shape when it has one coordinate for each axis, and each is less than the
dimension of its axis. -/
def Within : Index → Shape → Prop
  | [], [] => True
  | coordinate :: index, dimension :: shape => coordinate < dimension.value ∧ Within index shape
  | _, _ => False

instance Within.decide : (index : Index) → (shape : Shape) → Decidable (Within index shape)
  | [], [] => .isTrue trivial
  | _ :: index, _ :: shape =>
      have := Within.decide index shape
      inferInstanceAs (Decidable (_ ∧ _))
  | [], _ :: _ => .isFalse id
  | _ :: _, [] => .isFalse id

namespace Shape

/-- The values of the dimensions. -/
def values (shape : Shape) : List Nat := shape.map Count.value

/-- Shapes agree when their dimensions have the same values. -/
def Agree (left right : Shape) : Prop := left.values = right.values

instance (left right : Shape) : Decidable (Agree left right) :=
  inferInstanceAs (Decidable (_ = _))

/-- A shape agrees with itself. -/
theorem Agree.refl (shape : Shape) : Agree shape shape := rfl

/-- The number of indices within a shape: the product of its dimensions. -/
def size : Shape → Nat
  | [] => 1
  | dimension :: shape => dimension.value * size shape

/-- The place of an index in storage order. -/
def position : Shape → Index → Nat
  | dimension :: shape, coordinate :: index => coordinate + dimension.value * position shape index
  | _, _ => 0

/-- The index at a place in storage order. -/
def index : Shape → Nat → Index
  | [], _ => []
  | dimension :: shape, place =>
      place % dimension.value :: index shape (place / dimension.value)

/-- All indices within a shape, in storage order. -/
def indices (shape : Shape) : List Index :=
  (List.range shape.size).map shape.index

/-- There are as many indices as the size of the shape says. -/
theorem length_indices (shape : Shape) : shape.indices.length = shape.size := by
  simp [indices]

/-- An index within a shape has its place below the size. -/
theorem position_lt {shape : Shape} {index : Index} (within : Within index shape) :
    shape.position index < shape.size := by
  induction shape generalizing index with
  | nil => cases index <;> simp [position, size]
  | cons dimension shape hypothesis =>
      cases index with
      | nil => exact within.elim
      | cons coordinate index =>
          have here : coordinate < dimension.value := within.1
          have rest : position shape index < size shape := hypothesis within.2
          calc coordinate + dimension.value * position shape index
              < dimension.value + dimension.value * position shape index := by omega
            _ = dimension.value * (position shape index + 1) := by
                rw [Nat.mul_add, Nat.mul_one]; omega
            _ ≤ dimension.value * size shape := Nat.mul_le_mul_left _ rest

/-- The index at a place below the size lies within the shape. -/
theorem within_index {shape : Shape} {place : Nat} (bound : place < shape.size) :
    Within (shape.index place) shape := by
  induction shape generalizing place with
  | nil => trivial
  | cons dimension shape hypothesis =>
      have positive : 0 < dimension.value := by
        rcases Nat.eq_zero_or_pos dimension.value with isZero | isPositive
        · simp [size, isZero] at bound
        · exact isPositive
      exact ⟨Nat.mod_lt _ positive, hypothesis (Nat.div_lt_of_lt_mul bound)⟩

/-- The place of the index at a place is that place. -/
theorem position_index {shape : Shape} {place : Nat} (bound : place < shape.size) :
    shape.position (shape.index place) = place := by
  induction shape generalizing place with
  | nil =>
      simp only [size] at bound
      simp only [position]
      omega
  | cons dimension shape hypothesis =>
      simp only [index, position, hypothesis (Nat.div_lt_of_lt_mul bound)]
      exact Nat.mod_add_div _ _

/-- The index at the place of an index within the shape is that index. -/
theorem index_position {shape : Shape} {index : Index} (within : Within index shape) :
    shape.index (shape.position index) = index := by
  induction shape generalizing index with
  | nil =>
      cases index with
      | nil => rfl
      | cons => exact within.elim
  | cons dimension shape hypothesis =>
      cases index with
      | nil => exact within.elim
      | cons coordinate index =>
          have here : coordinate < dimension.value := within.1
          have positive : 0 < dimension.value := by omega
          simp only [position, Shape.index, Nat.add_mul_mod_self_left, Nat.mod_eq_of_lt here,
            Nat.add_mul_div_left _ _ positive, Nat.div_eq_of_lt here, Nat.zero_add,
            hypothesis within.2]

/-- Shapes that agree have the same size. -/
theorem Agree.size_eq {left right : Shape} (agree : Agree left right) : left.size = right.size := by
  induction left generalizing right with
  | nil =>
      cases right with
      | nil => rfl
      | cons => simp [Agree, values] at agree
  | cons dimension left hypothesis =>
      cases right with
      | nil => simp [Agree, values] at agree
      | cons other right =>
          simp only [Agree, values, List.map_cons, List.cons.injEq] at agree
          rw [size, size, agree.1, hypothesis agree.2]

/-- The indices are exactly those within the shape. -/
theorem mem_indices {shape : Shape} {index : Index} :
    index ∈ shape.indices ↔ Within index shape := by
  constructor
  · intro member
    obtain ⟨place, bound, rfl⟩ := List.mem_map.1 member
    exact within_index (List.mem_range.1 bound)
  · intro within
    exact List.mem_map.2
      ⟨shape.position index, List.mem_range.2 (position_lt within), index_position within⟩

/-- The indices within a shape, by the indices on all axes but the first. -/
theorem indices_cons (dimension : Count) (shape : Shape) :
    indices (dimension :: shape) =
      shape.indices.flatMap fun rest => (List.range dimension.value).map (· :: rest) := by
  unfold indices
  rw [size, List.flatMap_map]
  generalize shape.size = count
  induction count with
  | zero => rfl
  | succ count hypothesis =>
      rw [Nat.mul_succ, List.range_add, List.map_append, hypothesis, List.range_succ,
        List.flatMap_append, List.map_map, List.flatMap_singleton]
      apply congrArg
      apply List.map_congr_left
      intro coordinate inside
      have bound := List.mem_range.1 inside
      have positive : 0 < dimension.value := by omega
      simp [index, Nat.mul_add_div positive, Nat.mod_eq_of_lt bound,
        Nat.div_eq_of_lt bound]

/-- The first coordinate varies fastest. -/
example : Shape.indices [2, 2] = [[0, 0], [1, 0], [0, 1], [1, 1]] := by decide

/-- The indices that lie below the given numbers, one for each axis, in storage order.  Below a negative
number there are none. -/
def indicesBelow (dimensions : List Whole) : List Index :=
  indices (dimensions.map fun dimension => .number dimension.value.toNat)

/-- A shape given by whole numbers, none of which may be negative. -/
def ofWholes (dimensions : List Whole) : Except Fault Shape :=
  match dimensions.mapM Whole.count? with
  | some shape => .ok shape
  | none => .error (.negativeDimension dimensions)

/-- What a coordinate comes to: the number of a place on its axis, or a number with a fraction that lies
between the ends of the axis. -/
inductive Coordinate (dimension : Nat) where
  | place (number : Fin dimension)
  | between

/-- The coordinate that a datum names on an axis of some dimension, or nothing where it lies outside. -/
def coordinate? (dimension : Nat) (datum : Datum) : Except Fault (Option (Coordinate dimension)) :=
  match datum.integer?, datum.number? with
  | some number, _ =>
      if inside : 0 ≤ number ∧ number.toNat < dimension then
        .ok (some (.place ⟨number.toNat, inside.2⟩))
      else .ok none
  | none, some number =>
      if (Quantity.ofInt 0).atMost number && number.less (.ofInt dimension) then .ok (some .between)
      else .ok none
  | none, none => .error .wrongType

/-- The coordinates of a given index, read axis by axis; nothing where one of them has a fraction.  The
whole index and the whole shape are named in the report of a fault. -/
def coordinates (given : List Datum) (whole : Shape) :
    (shape : Shape) → List Datum → Except Fault (Option { index : Index // Within index shape })
  | [], [] => .ok (some ⟨[], trivial⟩)
  | dimension :: shape, datum :: data =>
      match coordinate? dimension.value datum with
      | .error fault => .error fault
      | .ok none => .error (.indexRange given whole)
      | .ok (some coordinate) =>
          match coordinate, coordinates given whole shape data with
          | _, .error fault => .error fault
          | .place number, .ok (some ⟨index, within⟩) =>
              .ok (some ⟨number.val :: index, number.isLt, within⟩)
          | _, .ok _ => .ok none
  | _, _ => .error (.indexLength given whole)

/-- The index that a sequence of data names within a shape.  The number of coordinates is looked at
first, then the coordinates one after the other, and last whether all of them are whole. -/
def locate (shape : Shape) (given : List Datum) :
    Except Fault { index : Index // Within index shape } :=
  if given.length = shape.length then
    match coordinates given shape shape given with
    | .error fault => .error fault
    | .ok (some index) => .ok index
    | .ok none => .error .indexFraction
  else .error (.indexLength given shape)

end Shape

end TensorLogic
