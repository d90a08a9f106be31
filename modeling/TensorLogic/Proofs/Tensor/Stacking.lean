/-
Module: TensorLogic.Proofs.Tensor.Stacking
Purpose: Tensors are stacked, joined and taken apart along their last axis as lists are.
Main exports: Tensor.Same, Tensor.unstack_stackAll_eq, Tensor.lookup_stackAll, Tensor.flatMap_pieces,
  Tensor.joined_eq_stackAll, Tensor.Refused, Tensor.stack_cases, Tensor.stackWith_eq_stack,
  Tensor.LastAxis, Tensor.last_axis
-/
import TensorLogic.Proofs.Tensor.Folding

namespace TensorLogic.Tensor

/-!
A tensor with a last axis is a list of tensors of one shape.  Stacking and taking apart go from one view to
the other and back, and putting two tensors together is appending their lists.  None of this depends on the
elements: dimensions may be zero, so that the pieces are empty, and the list may be empty, too.

The shape of a stack is the given one, and a tensor whose shape agrees with it may write a dimension
differently, as a truth value.  So what comes back is the same tensor, but the shape may be written as it
was given.
-/

variable {α γ : Type} {shape : Shape} {tensors : List (Tensor α)} {left right : Tensor α}

/-- Tensors are the same when their shapes agree and their elements are the same. -/
structure Same (left right : Tensor α) : Prop where
  agree : Shape.Agree left.shape right.shape
  elements : left.toList = right.toList

/-- A tensor with its shape written differently. -/
def recast (shape : Shape) (tensor : Tensor α) (agree : Shape.Agree tensor.shape shape) : Tensor α :=
  ofList shape tensor.toList (by rw [length_toList, agree.size_eq])

/-- A tensor under a shape that agrees with its own is the same. -/
theorem same_recast {tensor : Tensor α} (agree : Shape.Agree tensor.shape shape) :
    Same (recast shape tensor agree) tensor :=
  ⟨agree.symm, rfl⟩

theorem forall₂_recast (agree : ∀ tensor ∈ tensors, Shape.Agree tensor.shape shape) :
    List.Forall₂ Same (tensors.pmap (recast shape) agree) tensors := by
  induction tensors with
  | nil => exact .nil
  | cons tensor tensors hypothesis =>
      exact .cons (same_recast (agree tensor List.mem_cons_self))
        (hypothesis fun other listed => agree other (List.mem_cons_of_mem _ listed))

/-! ## Stacking and taking apart -/

theorem flatMap_recast (agree : ∀ tensor ∈ tensors, Shape.Agree tensor.shape shape) :
    (tensors.pmap (recast shape) agree).flatMap toList = tensors.flatMap toList := by
  induction tensors with
  | nil => rfl
  | cons tensor tensors hypothesis =>
      have rest := hypothesis fun other listed => agree other (List.mem_cons_of_mem _ listed)
      simp [List.pmap_cons, List.flatMap_cons, rest, recast]

/-- A stack is taken apart into its tensors, all with the shape of the stack. -/
theorem unstack_stackAll_eq (agree : ∀ tensor ∈ tensors, Shape.Agree tensor.shape shape) :
    (stackAll shape tensors agree).unstack = .ok (tensors.pmap (recast shape) agree) := by
  have isShape : ∀ tensor ∈ tensors.pmap (recast shape) agree, tensor.shape = shape := by
    intro tensor isOne
    rcases List.mem_pmap.1 isOne with ⟨given, listed, rfl⟩
    rfl
  have stacked : stackAll shape tensors agree =
      stackAll shape (tensors.pmap (recast shape) agree)
        fun tensor isOne => isShape tensor isOne ▸ Shape.Agree.refl shape := by
    apply ext_toList
    · simp [stackAll, ofList]
    · simp [flatMap_recast]
  rw [stacked]
  exact unstack_stackAll isShape _

/-- The element at a place of a stack is that of the tensor at the last coordinate. -/
theorem lookup_stackAll (agree : ∀ tensor ∈ tensors, Shape.Agree tensor.shape shape) {index : Index}
    (within : Within index shape) {place : Nat} (bound : place < tensors.length) :
    (stackAll shape tensors agree).lookup (Index.data (index ++ [place])) =
      tensors[place].lookup index.data := by
  have inside : Within [place] [.number tensors.length] := ⟨bound, trivial⟩
  have both : Within (index ++ [place]) (stackAll shape tensors agree).shape :=
    (Shape.within_append within).2 inside
  have agreeHere := agree tensors[place] (List.getElem_mem bound)
  have withinHere : Within index tensors[place].shape := agreeHere.within_iff.2 within
  have counted : ∀ tensor ∈ tensors, tensor.toList.length = shape.size := by
    intro tensor isOne
    rw [length_toList, (agree tensor isOne).size_eq]
  have piece := extract_flatMap tensors counted place bound
  have isPosition : Shape.position (stackAll shape tensors agree).shape (index ++ [place]) =
      place * shape.size + shape.position index := by
    change Shape.position (shape ++ [.number tensors.length]) _ = _
    rw [Shape.position_append within, Nat.add_comm, Nat.mul_comm]
    simp [Shape.position]
  rw [lookup_data _ withinHere, lookup_eq_ok_iff both, isPosition, toList_stackAll,
    ← getElem?_position, ← piece, agreeHere.position_eq,
    List.getElem?_take_of_lt (Shape.position_lt within), List.getElem?_drop]

/-- The pieces of a tensor make up its storage. -/
theorem flatMap_pieces (tensor : Tensor α) (nonempty : tensor.shape ≠ []) :
    (tensor.pieces nonempty).flatMap toList = tensor.toList := by
  have isList : (tensor.pieces nonempty).map toList =
      (List.range (tensor.shape.getLast nonempty).value).map
        (tensor.slice (Shape.size tensor.shape.dropLast)) := by
    apply List.ext_getElem
    · simp [pieces]
    · intro place first second
      simp [pieces]
  have all := flatten_pieces tensor.toList (Shape.size tensor.shape.dropLast) 0
    (tensor.shape.getLast nonempty).value
  rw [List.flatMap_def, isList]
  simp only [Nat.zero_add, ← slice_eq_take] at all
  rw [all, Nat.mul_comm, Shape.size_eq_dropLast nonempty]
  simp [List.take_of_length_le]

/-- The pieces of a tensor have its shape without the last axis. -/
theorem shape_of_mem_pieces {tensor piece : Tensor α} {nonempty : tensor.shape ≠ []}
    (isPiece : piece ∈ tensor.pieces nonempty) : piece.shape = tensor.shape.dropLast := by
  simp only [pieces, List.mem_ofFn] at isPiece
  rcases isPiece with ⟨place, rfl⟩
  rfl

/-- A tensor has as many pieces as its last dimension says. -/
@[simp]
theorem length_pieces (tensor : Tensor α) (nonempty : tensor.shape ≠ []) :
    (tensor.pieces nonempty).length = (tensor.shape.getLast nonempty).value := by
  simp [pieces]

/-- A tensor with a last axis is the stack of its pieces. -/
theorem same_stackAll_pieces (tensor : Tensor α) (nonempty : tensor.shape ≠ [])
    (agree : ∀ piece ∈ tensor.pieces nonempty, Shape.Agree piece.shape tensor.shape.dropLast) :
    Same (stackAll tensor.shape.dropLast (tensor.pieces nonempty) agree) tensor := by
  constructor
  · have isShape := List.dropLast_concat_getLast nonempty
    change Shape.values (tensor.shape.dropLast ++ [.number (tensor.pieces nonempty).length]) =
      Shape.values tensor.shape
    rw [← isShape]
    simp [Shape.values]
  · rw [toList_stackAll, flatMap_pieces]

/-! ## Joining -/

/-- Two tensors put together are the stack of the pieces of both. -/
theorem joined_eq_stackAll (joinable : Joinable left.shape right.shape)
    (agree : ∀ piece ∈ left.pieces joinable.1 ++ right.pieces joinable.2.1,
      Shape.Agree piece.shape left.shape.dropLast) :
    left.joined right joinable =
      stackAll left.shape.dropLast (left.pieces joinable.1 ++ right.pieces joinable.2.1) agree := by
  apply ext_toList
  · simp [joined, stackAll, ofList]
  · rw [toList_stackAll, List.flatMap_append, flatMap_pieces, flatMap_pieces]
    rfl

/-- What two tensors put together are taken apart into. -/
theorem unstack_joined (joinable : Joinable left.shape right.shape) :
    ∃ found, (left.joined right joinable).unstack = .ok found ∧
      List.Forall₂ Same found (left.pieces joinable.1 ++ right.pieces joinable.2.1) := by
  have agree : ∀ piece ∈ left.pieces joinable.1 ++ right.pieces joinable.2.1,
      Shape.Agree piece.shape left.shape.dropLast := by
    intro piece isPiece
    rcases List.mem_append.1 isPiece with isLeft | isRight
    · rw [shape_of_mem_pieces isLeft]
      exact Shape.Agree.refl _
    · rw [shape_of_mem_pieces isRight]
      exact joinable.2.2.symm
  rw [joined_eq_stackAll joinable agree, unstack_stackAll_eq agree]
  exact ⟨_, rfl, forall₂_recast agree⟩

/-- Two tensors can be put together when they have the same order, at least one, and differ on the last
axis at most. -/
theorem joinable_iff : Joinable left.shape right.shape ↔
    1 ≤ left.order ∧ left.order = right.order ∧
      Shape.Agree left.shape.dropLast right.shape.dropLast := by
  unfold Joinable order
  simp only [← List.length_pos_iff]
  constructor
  · rintro ⟨isLeft, isRight, agree⟩
    have lengths := congrArg List.length agree
    simp only [Shape.values, List.length_map, List.length_dropLast] at lengths
    exact ⟨isLeft, by omega, agree⟩
  · rintro ⟨isLeft, same, agree⟩
    exact ⟨isLeft, by omega, agree⟩

/-! ## Stacks that are refused -/

/-- The dimensions that a stack is asked for: the given ones, or else those of the first tensor. -/
def asked (tensors : List (Tensor α)) (dimensions : Option (List Whole)) : Option (List Whole) :=
  dimensions.or (tensors.head?.map fun first => first.shape.map Count.toWhole)

/-- A stack has no shape to go by when none is given and nothing is stacked. -/
theorem asked_eq_none {dimensions : Option (List Whole)} :
    asked tensors dimensions = none ↔ dimensions = none ∧ tensors = [] := by
  simp [asked]

/-- A stack is made with the dimensions that it is asked for. -/
theorem stack_of_asked {dimensions : Option (List Whole)} {wanted : List Whole}
    (isAsked : asked tensors dimensions = some wanted) :
    stack tensors dimensions = stack tensors (some wanted) := by
  cases dimensions with
  | some given =>
      obtain rfl : given = wanted := by simpa [asked] using isAsked
      rfl
  | none =>
      cases tensors with
      | nil => simp [asked] at isAsked
      | cons first tensors =>
          obtain rfl : first.shape.map Count.toWhole = wanted := by simpa [asked] using isAsked
          simp only [stack, Shape.ofWholes_toWhole]
          rfl

theorem ofWholes_of_negative {dimensions : List Whole}
    (negative : ∃ dimension ∈ dimensions, dimension.value < 0) :
    Shape.ofWholes dimensions = .error (.negativeDimension dimensions) := by
  cases read : Shape.ofWholes dimensions with
  | ok shape =>
      rcases negative with ⟨dimension, listed, isNegative⟩
      rw [Shape.ofWholes_eq_ok.1 read] at listed
      rcases List.mem_map.1 listed with ⟨count, -, rfl⟩
      rw [Count.value_toWhole] at isNegative
      omega
  | error fault =>
      unfold Shape.ofWholes at read
      split at read
      · cases read
      · exact read.symm

/-- Shapes agree when they have the same dimensions as numbers. -/
theorem agree_iff_values {tensor : Tensor α} :
    Shape.Agree tensor.shape shape ↔
      tensor.shape.map (fun dimension => (dimension.value : Int)) =
        (shape.map Count.toWhole).map Whole.value := by
  have written : ∀ shape : Shape, (shape.map fun dimension => (dimension.value : Int)) =
      shape.values.map Int.ofNat := by
    intro shape
    simp [Shape.values]
  have read : (shape.map Count.toWhole).map Whole.value = shape.values.map Int.ofNat := by
    simp [Shape.values]
  rw [written, read]
  constructor
  · intro agree
    rw [agree]
  · intro same
    exact List.map_injective_iff.2 (fun first second equal => Int.ofNat.inj equal) same

/-- Whether a stack is refused: it is not told its shape, a dimension is negative, or some tensor has
another shape. -/
def Refused (tensors : List (Tensor α)) (dimensions : Option (List Whole)) : Prop :=
  (dimensions = none ∧ tensors = []) ∨
    ∃ wanted, asked tensors dimensions = some wanted ∧
      ((∃ dimension ∈ wanted, dimension.value < 0) ∨
        ∃ tensor ∈ tensors, tensor.shape.map (fun dimension => (dimension.value : Int)) ≠
          wanted.map Whole.value)

/-- A stack is either made or refused as a wrong value. -/
theorem stack_cases (tensors : List (Tensor α)) (dimensions : Option (List Whole)) :
    (¬ Refused tensors dimensions ∧ ∃ result, stack tensors dimensions = .ok result) ∨
      (Refused tensors dimensions ∧
        ∃ fault, stack tensors dimensions = .error fault ∧ fault.category = .value) := by
  cases isAsked : asked tensors dimensions with
  | none =>
      rcases asked_eq_none.1 isAsked with ⟨rfl, rfl⟩
      exact .inr ⟨.inl ⟨rfl, rfl⟩, .emptyStack, rfl, rfl⟩
  | some wanted =>
      have known : ¬ (dimensions = none ∧ tensors = []) := by
        rw [← asked_eq_none, isAsked]
        exact Option.some_ne_none wanted
      rw [stack_of_asked isAsked]
      simp only [Refused, isAsked, known, false_or, Option.some.injEq, exists_eq_left']
      by_cases negative : ∃ dimension ∈ wanted, dimension.value < 0
      · have refused : stack tensors (some wanted) = .error (.negativeDimension wanted) := by
          simp only [stack, ofWholes_of_negative negative]
          rfl
        exact .inr ⟨.inl negative, _, refused, rfl⟩
      · rcases Shape.exists_ofWholes (by simpa using negative) with ⟨shape, rfl⟩
        have read := Shape.ofWholes_toWhole shape
        simp only [negative, false_or, ne_eq, ← agree_iff_values]
        cases found : tensors.find? (fun tensor => ¬Shape.Agree tensor.shape shape) with
        | some tensor =>
            have differs : ¬Shape.Agree tensor.shape shape := by
              simpa using List.find?_some found
            exact .inr ⟨⟨tensor, List.mem_of_find?_eq_some found, differs⟩, _,
              stack_of_found read found, rfl⟩
        | none =>
            have agree : ∀ tensor ∈ tensors, Shape.Agree tensor.shape shape := by
              intro tensor listed
              simpa using List.find?_eq_none.1 found tensor listed
            refine .inl ⟨?_, _, stack_of_agree read agree⟩
            rintro ⟨tensor, listed, differs⟩
            exact differs (agree tensor listed)

/-! ## Members that are read one by one -/

section

variable {read : γ → Except Fault (Tensor α)} {given : List γ}

/-- The check of the shapes ends at the first tensor that has another one. -/
theorem mapM_checked (areRead : given.mapM read = .ok tensors) (shape : Shape) :
    (given.mapM fun item => do
        let tensor ← read item
        if Shape.Agree tensor.shape shape then pure tensor
        else throw (Fault.stackShape tensor.shape shape)) =
      match tensors.find? (fun tensor => ¬Shape.Agree tensor.shape shape) with
      | some tensor => .error (.stackShape tensor.shape shape)
      | none => .ok tensors := by
  have each := Outcome.mapM_eq_ok_iff.1 areRead
  clear areRead
  induction each with
  | nil => rfl
  | @cons item tensor given tensors isRead rest hypothesis =>
      rw [List.mapM_cons, isRead, hypothesis]
      by_cases agree : Shape.Agree tensor.shape shape
      · simp only [List.find?_cons, agree, not_true_eq_false, decide_false]
        cases tensors.find? (fun tensor => ¬Shape.Agree tensor.shape shape) with
        | some other => simp [bind, Except.bind, agree, pure, Except.pure]
        | none => simp [bind, Except.bind, agree, pure, Except.pure]
      · simp [agree, bind, Except.bind]
        rfl

/-- The shape of a stack is found in the same way where its members are read first. -/
theorem stackShape_eq (areRead : given.mapM read = .ok tensors) {dimensions : Option (List Whole)}
    {wanted : List Whole} (isAsked : asked tensors dimensions = some wanted) :
    stackShape read given dimensions = Shape.ofWholes wanted := by
  cases dimensions with
  | some dimensions =>
      obtain rfl : dimensions = wanted := by simpa [asked] using isAsked
      rfl
  | none =>
      cases Outcome.mapM_eq_ok_iff.1 areRead with
      | nil => simp [asked] at isAsked
      | @cons item first given tensors isRead rest =>
          obtain rfl : first.shape.map Count.toWhole = wanted := by simpa [asked] using isAsked
          simp only [stackShape, isRead, Shape.ofWholes_toWhole]
          rfl

/-- Where all members are read as tensors, reading them one by one makes no difference. -/
theorem stackWith_eq_stack (areRead : given.mapM read = .ok tensors)
    (dimensions : Option (List Whole)) :
    stackWith read given dimensions = stack tensors dimensions := by
  cases isAsked : asked tensors dimensions with
  | none =>
      rcases asked_eq_none.1 isAsked with ⟨rfl, rfl⟩
      cases Outcome.mapM_eq_ok_iff.1 areRead
      rfl
  | some wanted =>
      rw [stack_of_asked isAsked, stackWith, stackShape_eq areRead isAsked]
      cases isShape : Shape.ofWholes wanted with
      | error fault =>
          simp only [stack, isShape]
          rfl
      | ok shape =>
          obtain rfl := Shape.ofWholes_eq_ok.1 isShape
          have checked := congrArg (fun read => read >>= fun tensors =>
            stack tensors (some (shape.map Count.toWhole))) (mapM_checked areRead shape)
          refine checked.trans ?_
          cases found : tensors.find? (fun tensor => ¬Shape.Agree tensor.shape shape) with
          | some tensor => exact (stack_of_found isShape found).symm
          | none => rfl

end

/-! ## The last axis as a whole -/

/-- What is done along the last axis of tensors. -/
structure LastAxis (α : Type) : Prop where
  /-- Tensors of one shape are stacked, and the stack is taken apart into them.  The last coordinate of an
  element of the stack says in which of them it is found. -/
  unstack_stack : ∀ (shape : Shape) (tensors : List (Tensor α)),
    (∀ tensor ∈ tensors, Shape.Agree tensor.shape shape) →
      ∃ result found, stack tensors (some (shape.map Count.toWhole)) = .ok result ∧
        result.unstack = .ok found ∧ List.Forall₂ Same found tensors ∧
          ∀ index, Within index shape → ∀ (place : Nat) (bound : place < tensors.length),
            ∃ element, tensors[place].lookup index.data = .ok element ∧
              result.lookup (Index.data (index ++ [place])) = .ok element
  /-- A tensor that has a last axis is the stack of what it is taken apart into. -/
  stack_unstack : ∀ tensor : Tensor α, 1 ≤ tensor.order →
    ∃ found result, tensor.unstack = .ok found ∧
      stack found (some (tensor.shape.dropLast.map Count.toWhole)) = .ok result ∧ Same result tensor
  /-- Two tensors can be put together when they differ on the last axis at most. -/
  concat_iff : ∀ left right : Tensor α, (∃ result, left.concat right = .ok result) ↔
    1 ≤ left.order ∧ left.order = right.order ∧
      Shape.Agree left.shape.dropLast right.shape.dropLast
  /-- What two tensors are taken apart into is put together in the same order. -/
  unstack_concat : ∀ left right result : Tensor α, left.concat right = .ok result →
    ∃ firsts seconds found, left.unstack = .ok firsts ∧ right.unstack = .ok seconds ∧
      result.unstack = .ok found ∧ List.Forall₂ Same found (firsts ++ seconds)
  /-- A stack is refused when it is not told its shape, when a dimension is negative or when some tensor has
  another shape. -/
  refused_iff : ∀ (tensors : List (Tensor α)) (dimensions : Option (List Whole)),
    (∃ fault, stack tensors dimensions = .error fault ∧ fault.category = .value) ↔
      Refused tensors dimensions
  /-- Otherwise it is made. -/
  made_iff : ∀ (tensors : List (Tensor α)) (dimensions : Option (List Whole)),
    (∃ result, stack tensors dimensions = .ok result) ↔ ¬ Refused tensors dimensions
  /-- Members that have to be read as tensors first may be read one by one. -/
  read : ∀ {γ : Type} (read : γ → Except Fault (Tensor α)) (given : List γ)
    (tensors : List (Tensor α)), given.mapM read = .ok tensors →
      ∀ dimensions, stackWith read given dimensions = stack tensors dimensions

/-- A last axis is a list. -/
theorem last_axis (α : Type) : LastAxis α where
  unstack_stack := by
    intro shape tensors agree
    refine ⟨_, _, stack_of_agree (Shape.ofWholes_toWhole shape) agree, unstack_stackAll_eq agree,
      forall₂_recast agree, fun index within place bound => ?_⟩
    have withinHere := (agree tensors[place] (List.getElem_mem bound)).within_iff.2 within
    exact ⟨_, lookup_data _ withinHere,
      (lookup_stackAll agree within bound).trans (lookup_data _ withinHere)⟩
  stack_unstack := by
    intro tensor isPositive
    have nonempty : tensor.shape ≠ [] := List.length_pos_iff.1 isPositive
    have agree : ∀ piece ∈ tensor.pieces nonempty,
        Shape.Agree piece.shape tensor.shape.dropLast := by
      intro piece isPiece
      rw [shape_of_mem_pieces isPiece]
      exact Shape.Agree.refl _
    exact ⟨_, _, unstack_of_nonempty nonempty, stack_of_agree (Shape.ofWholes_toWhole _) agree,
      same_stackAll_pieces tensor nonempty agree⟩
  concat_iff := by
    intro left right
    rw [← joinable_iff]
    by_cases joinable : Joinable left.shape right.shape
    · simp [concat_of_joinable joinable, joinable]
    · simp [concat_of_not_joinable joinable, joinable]
  unstack_concat := by
    intro left right result joined
    by_cases joinable : Joinable left.shape right.shape
    · rw [concat_of_joinable joinable] at joined
      obtain rfl := Except.ok.inj joined
      rcases unstack_joined joinable with ⟨found, isFound, same⟩
      exact ⟨_, _, found, unstack_of_nonempty joinable.1, unstack_of_nonempty joinable.2.1, isFound,
        same⟩
    · rw [concat_of_not_joinable joinable] at joined
      cases joined
  refused_iff := by
    intro tensors dimensions
    rcases stack_cases tensors dimensions with ⟨allowed, result, made⟩ | ⟨refused, failed⟩
    · simp [made, allowed]
    · exact ⟨fun _ => refused, fun _ => failed⟩
  made_iff := by
    intro tensors dimensions
    rcases stack_cases tensors dimensions with ⟨allowed, made⟩ | ⟨refused, fault, failed, -⟩
    · exact ⟨fun _ => allowed, fun _ => made⟩
    · simp [failed, refused]
  read := fun read given tensors areRead dimensions => stackWith_eq_stack areRead dimensions

/-- Two vectors are stacked and taken apart into two vectors again.  In the stack, the last element of the
first vector has the last coordinate zero. -/
theorem last_axis_vectors : ∃ result found : _,
    stack [ofList [.number 2] ['a', 'b'] rfl, ofList [.number 2] ['c', 'd'] rfl] (some [.number 2]) =
        .ok result ∧
      result.unstack = .ok found ∧ found.length = 2 ∧
        result.lookup (Index.data [1, 0]) = .ok 'b' := by
  rcases (last_axis Char).unstack_stack [.number 2]
    [ofList [.number 2] ['a', 'b'] rfl, ofList [.number 2] ['c', 'd'] rfl] (by decide) with
      ⟨result, found, stacked, unstacked, same, located⟩
  rcases located [1] (by decide) 0 (by decide) with ⟨element, inFirst, inStack⟩
  have isLast : (ofList [.number 2] ['a', 'b'] rfl : Tensor Char).lookup (Index.data [1]) = .ok 'b' := rfl
  have isElement : element = 'b' := Except.ok.inj (inFirst.symm.trans isLast)
  exact ⟨result, found, stacked, unstacked, same.length_eq, isElement ▸ inStack⟩

end TensorLogic.Tensor
