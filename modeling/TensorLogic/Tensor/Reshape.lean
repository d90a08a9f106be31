/-
Module: TensorLogic.Tensor.Reshape
Purpose: Rearranging, repeating and identifying the axes of a tensor, and spreading it along its
  diagonals.
Main exports: Fits, Index.pull, Tensor.pull, Tensor.get_pull, Tensor.reshape, Tensor.isUnchanged,
  Tensor.diagonal, within_pull
-/
import TensorLogic.Tensor.Capacity
import TensorLogic.Tensor.Layout

namespace TensorLogic

/-!
An axis map lists, for each axis of a tensor, the axis of the new shape that it goes to.  The element
of the new tensor at an index is the element of the old one at the coordinates that the map picks out
of that index.  Two axes that go to the same one leave only their diagonal, and an axis that none goes
to repeats the elements.

`Tensor.diagonal` goes the other way: its map lists, for each axis of the *new* tensor, the axis of
the old one that it comes from.
-/

/-- An axis map fits when it sends every axis of the old shape to an axis of the new one that has the
same dimension. -/
def Fits (source target : Shape) (axes : List Nat) : Prop :=
  axes.map (target.values[·]?) = source.values.map some

instance (source target : Shape) (axes : List Nat) : Decidable (Fits source target axes) :=
  inferInstanceAs (Decidable (_ = _))

/-- The coordinates that an axis map picks out of an index. -/
def Index.pull (axes : List Nat) (index : Index) : Index :=
  axes.map fun axis => index.getD axis 0

/-- A coordinate of an index within a shape is less than the dimension of its axis. -/
theorem Within.getD_lt {index : Index} {shape : Shape} {axis dimension : Nat}
    (within : Within index shape) (found : shape.values[axis]? = some dimension) :
    index.getD axis 0 < dimension := by
  induction shape generalizing index axis with
  | nil => simp [Shape.values] at found
  | cons first shape hypothesis =>
      cases index with
      | nil => exact within.elim
      | cons coordinate index =>
          cases axis with
          | zero =>
              simp only [Shape.values, List.map_cons, List.getElem?_cons_zero,
                Option.some.injEq] at found
              simpa [← found] using within.1
          | succ axis =>
              simp only [Shape.values, List.map_cons, List.getElem?_cons_succ] at found
              simpa using hypothesis within.2 found

/-- An axis map that fits picks an index within the old shape out of every index within the new
one. -/
theorem within_pull {source target : Shape} {axes : List Nat} {index : Index}
    (fits : Fits source target axes) (within : Within index target) :
    Within (Index.pull axes index) source := by
  induction axes generalizing source with
  | nil =>
      cases source with
      | nil => trivial
      | cons => simp [Fits, Shape.values] at fits
  | cons axis axes hypothesis =>
      cases source with
      | nil => simp [Fits, Shape.values] at fits
      | cons dimension source =>
          simp only [Fits, Shape.values, List.map_cons, List.cons.injEq] at fits
          exact ⟨within.getD_lt fits.1, hypothesis fits.2⟩

/-- A shape with the dimension one on every axis that an axis map sends nothing to. -/
def Shape.grid (axes : List Nat) (target : Shape) : Shape :=
  target.mapIdx fun axis dimension => if axis ∈ axes then dimension else 1

namespace Shape

@[simp]
theorem length_grid (axes : List Nat) (target : Shape) : (target.grid axes).length = target.length := by
  simp [grid]

/-- On the axes that an axis map sends something to, the dimensions stay. -/
theorem values_grid {axes : List Nat} {axis : Nat} (member : axis ∈ axes) (target : Shape) :
    (target.grid axes).values[axis]? = target.values[axis]? := by
  simp [grid, values, member]

/-- A grid has dimension one on every axis that is not mapped, so that it stretches to the target. -/
theorem stretches_grid (axes : List Nat) (target : Shape) : (target.grid axes).Stretches target :=
  stretches_mapIdx fun axis dimension => by
    split
    · exact .inr rfl
    · exact .inl rfl

end Shape

/-- An axis map that fits a shape fits the axes that it sends something to. -/
theorem Fits.grid {source target : Shape} {axes : List Nat} (fits : Fits source target axes) :
    Fits source (target.grid axes) axes := by
  rw [Fits, ← fits]
  exact List.map_congr_left fun axis member => Shape.values_grid member target

/-- The coordinates that an axis map picks out are the same on the axes it sends something to. -/
theorem Index.pull_narrow {axes : List Nat} {target : Shape} {index : Index}
    (within : Within index target) :
    Index.pull axes (Index.narrow (target.grid axes) index) = Index.pull axes index :=
  List.map_congr_left fun _ member =>
    (Shape.stretches_grid axes target).getD_narrow within (Shape.values_grid member target)

/-- Without axes, only the shape without axes is fitted by the map without entries. -/
theorem Fits.eq_nil {source target : Shape} (fits : Fits source target []) : source = [] := by
  cases source with
  | nil => rfl
  | cons => simp [Fits, Shape.values] at fits

namespace Tensor

variable {α : Type}

/-- The elements of a tensor, gathered along the axes that an axis map sends something to.  All other axes
have the dimension one. -/
def gather (tensor : Tensor α) (target : Shape) (axes : List Nat)
    (fits : Fits tensor.shape target axes) : Tensor α :=
  generate (target.grid axes) fun index within =>
    tensor.layout.read (Index.pull axes index) (within_pull fits.grid within)

/-- What is repeated over a shape.  Without axes there is nothing to gather along. -/
def gathered (tensor : Tensor α) (target : Shape) (axes : List Nat)
    (fits : Fits tensor.shape target axes) : Tensor α :=
  if axes = [] then tensor else tensor.gather target axes fits

/-- A tensor without axes can be repeated over every shape, and one that is gathered over the shape it is
gathered for. -/
theorem spreads_gathered (tensor : Tensor α) (target : Shape) (axes : List Nat)
    (fits : Fits tensor.shape target axes) :
    (tensor.gathered target axes fits).shape.Spreads target := by
  unfold gathered
  split
  · next empty =>
      subst empty
      simpa [Shape.Spreads, Shape.prepend, fits.eq_nil] using Shape.stretches_replicate target
  · simpa [Shape.Spreads, Shape.prepend, gather, generate, ofList] using
      Shape.stretches_grid axes target

/-- What is gathered has, where an index of the whole shape is repeated from, the element that the axis map
picks out of that index. -/
theorem get_gathered (tensor : Tensor α) (target : Shape) (axes : List Nat)
    (fits : Fits tensor.shape target axes) (index : Index) (within : Within index target)
    (inside : Within (Index.source (tensor.gathered target axes fits).shape target index)
      (tensor.gathered target axes fits).shape) :
    (tensor.gathered target axes fits).get _ inside =
      tensor.get (Index.pull axes index) (within_pull fits within) := by
  generalize isHeld : tensor.gathered target axes fits = held at inside ⊢
  unfold gathered at isHeld
  split at isHeld <;> subst isHeld
  · next empty =>
      subst empty
      apply get_congr
      simp [Index.source, Index.narrow, Index.pull, fits.eq_nil]
  · have isSource : Index.pull axes (Index.source (target.grid axes) target index) =
        Index.pull axes index := by
      simp only [Index.source, Shape.length_grid, Nat.sub_self, List.drop_zero]
      exact Index.pull_narrow within
    calc (tensor.gather target axes fits).get _ inside
      _ = tensor.layout.read _ (within_pull fits.grid inside) := get_generate _ _ _ _
      _ = tensor.get _ (within_pull fits.grid inside) := Layout.read_layout _ _ _
      _ = tensor.get _ (within_pull fits within) := tensor.get_congr isSource _

/-- The tensor of a shape that reads its elements through an axis map: they are gathered along the axes
that the map sends something to, and repeated over the others. -/
def pull (tensor : Tensor α) (shape : Shape) (axes : List Nat)
    (fits : Fits tensor.shape shape axes) : Tensor α :=
  (tensor.gathered shape axes fits).repeated shape (tensor.spreads_gathered shape axes fits)

/-- Every element of the new tensor is the one that the axis map picks out. -/
theorem get_pull (tensor : Tensor α) (shape : Shape) (axes : List Nat)
    (fits : Fits tensor.shape shape axes) (index : Index) (within : Within index shape) :
    (tensor.pull shape axes fits).get index within =
      tensor.get (Index.pull axes index) (within_pull fits within) :=
  (get_repeated _ _ _ _ _).trans (tensor.get_gathered shape axes fits index within _)

/-- The first fault of an axis map, looking at its entries in order.  The entry of the axis number
`axis` is the first of the `targets`; the dimensions are those of the remaining axes. -/
def axisFault? (axes : List Whole) (shape : Shape) (axis : Nat) :
    (targets : List Whole) → (dimensions : Shape) → Option Fault
  | target :: targets, dimension :: dimensions =>
      if target.value < 0 then some (.axisMapRange axes shape)
      else
        match shape[target.value.toNat]? with
        | none => some (.axisMapRange axes shape)
        | some found =>
            if found.value = dimension.value then
              axisFault? axes shape (axis + 1) targets dimensions
            else some (.axisMapDimension axis dimension target found)
  | _, _ => none

/-- The axis numbers of a map without fault. -/
def axisNumbers (axes : List Whole) : List Nat := axes.map fun axis => axis.value.toNat

/-- A map without a fault fits. -/
theorem fits_of_axisFault? {axes : List Whole} {shape : Shape} {axis : Nat} {targets : List Whole}
    {dimensions : Shape} (counted : targets.length = dimensions.length)
    (faultless : axisFault? axes shape axis targets dimensions = none) :
    Fits dimensions shape (axisNumbers targets) := by
  induction targets generalizing dimensions axis with
  | nil =>
      cases dimensions with
      | nil => rfl
      | cons => simp at counted
  | cons target targets hypothesis =>
      cases dimensions with
      | nil => simp at counted
      | cons dimension dimensions =>
          simp only [axisFault?] at faultless
          split at faultless
          · simp at faultless
          · split at faultless
            · simp at faultless
            · split at faultless
              · rename_i found matched same
                have rest := hypothesis (by simpa using counted) faultless
                have here : shape.values[target.value.toNat]? = some dimension.value := by
                  rw [Shape.values, List.getElem?_map, matched, Option.map_some, same]
                simp only [Fits, Shape.values, axisNumbers, List.map_cons, List.cons.injEq] at *
                exact ⟨here, rest⟩
              · simp at faultless

/-- Whether a map to a new shape changes nothing: the dimensions stay, and every axis goes to itself. -/
def isIdentity (tensor : Tensor α) (shape : Shape) (axes : List Whole) : Bool :=
  decide (Shape.Agree shape tensor.shape) && axisNumbers axes == List.range tensor.order

/-- The tensor of a new shape that reads its elements through an axis map.  The new shape is checked
first, then the number of entries of the map, then its entries one after the other.  A map that changes
nothing leaves the tensor as it is; any other one needs arrays of both shapes. -/
def reshape [Platform] (tensor : Tensor α) (dimensions axes : List Whole) : Except Fault (Tensor α) := do
  let shape ← Shape.ofWholes dimensions
  if counted : axes.length = tensor.shape.length then
    match faultless : axisFault? axes shape 0 axes tensor.shape with
    | some fault => .error fault
    | none =>
        if tensor.isIdentity shape axes then .ok tensor
        else do
          Shape.checkSpread tensor.shape shape
          .ok (tensor.pull shape (axisNumbers axes) (fits_of_axisFault? counted faultless))
  else .error (.axisMapLength axes tensor.order)

/-- Whether a reshape leaves the tensor as it is. -/
def isUnchanged (tensor : Tensor α) (dimensions axes : List Whole) : Bool :=
  match Shape.ofWholes dimensions with
  | .ok shape => axes.length == tensor.order && tensor.isIdentity shape axes
  | .error _ => false

/-- The coordinates on the old axes that an index on the new ones stands for, minus one where none is set
yet.  Each new axis sets the coordinate of the axis it comes from, unless that is set already; where it is
set to another coordinate, the index stands for nothing. -/
def settle : (axes : List Nat) → (index : Index) → (coordinates : List Int) → Option (List Int)
  | axis :: axes, coordinate :: index, coordinates =>
      if coordinates.getD axis (-1) = -1 then settle axes index (coordinates.set axis coordinate)
      else if coordinates.getD axis (-1) = coordinate then settle axes index coordinates
      else none
  | _, _, coordinates => some coordinates

/-- The element of a tensor that is spread along its diagonals, at an index on the new axes. -/
def diagonalElement (tensor : Tensor α) (axes : List Nat) (default : α) (index : Index) :
    Except Fault α :=
  match settle axes index (List.replicate tensor.order (-1)) with
  | some coordinates => tensor.lookup (coordinates.map Datum.int)
  | none => .ok default

/-- Whether an axis map lists axes of a tensor only, and every one of them. -/
def Covers (tensor : Tensor α) (axes : List Whole) : Prop :=
  (∀ axis ∈ axes, 0 ≤ axis.value ∧ axis.value < tensor.order) ∧
    ∀ axis < tensor.order, axis ∈ axisNumbers axes

instance (tensor : Tensor α) (axes : List Whole) : Decidable (tensor.Covers axes) :=
  inferInstanceAs (Decidable (_ ∧ _))

/-- The tensor whose axis number `j` comes from the axis `axes[j]` of the given one.  Every axis has
to be listed.  Where new axes that come from the same old one have different coordinates, the element
is the given one. -/
def diagonal [Platform] (tensor : Tensor α) (axes : List Whole) (default : α) : Except Fault (Tensor α) :=
  if tensor.Covers axes then do
    let shape := (axisNumbers axes).map fun axis => tensor.shape.getD axis 0
    Shape.checkRanges (shape.map Count.toWhole)
    generateM shape (tensor.diagonalElement (axisNumbers axes) default)
  else .error (.axisMapCover axes tensor.order)

end Tensor

end TensorLogic
