/-
Module: TensorLogic.Proofs.Solver.Allocation
Purpose: The variables of tensors are allocated one after the other, in storage order.
Main exports: Solver.allocated, Solver.freshLiterals, Solver.runOn_variableTensor,
  Solver.runOn_variableTensor_refused, Solver.runOn_variableTensors, Solver.runOn_variableTensors_refused,
  Solver.live_of_mem_freshLiterals
-/
import Mathlib.Algebra.GroupWithZero.Nat
import TensorLogic.Proofs.Solver.State
import TensorLogic.Proofs.Tensor.Capacity

namespace TensorLogic.Solver

/-- The solver with so many more variables. -/
def allocated (solver : Solver) (count : Nat) : Solver :=
  { solver with
    backend := { solver.backend with numVars := solver.backend.numVars + count }
    totalVariables := solver.totalVariables + count }

/-- The literals of the variables that are allocated next. -/
def freshLiterals (solver : Solver) (count : Nat) : List Lit :=
  (List.range' (solver.backend.numVars + 1) count).map fun number =>
    ⟨.formula solver.owner solver.period, (number : Nat)⟩

variable {solver : Solver}

/-- Variables may be allocated in two goes. -/
theorem allocated_allocated (first second : Nat) :
    (solver.allocated first).allocated second = solver.allocated (first + second) := by
  simp only [allocated, Nat.add_assoc]

/-- The fresh literals of two goes are those of one. -/
theorem freshLiterals_add (first second : Nat) :
    solver.freshLiterals (first + second) =
      solver.freshLiterals first ++ (solver.allocated first).freshLiterals second := by
  have split : List.range' (solver.backend.numVars + 1) (first + second) =
      List.range' (solver.backend.numVars + 1) first ++
        List.range' (solver.backend.numVars + first + 1) second := by
    rw [Nat.add_right_comm, List.range'_append_1]
  rw [freshLiterals, split, List.map_append]
  rfl

theorem WellFormed.allocated (wellFormed : solver.WellFormed) (count : Nat) :
    (solver.allocated count).WellFormed where
  isOver := wellFormed.isOver.mono (Nat.le_add_right _ _)
  asserts_top := wellFormed.asserts_top

/-- Fresh literals can be used as soon as they are allocated. -/
theorem live_of_mem_freshLiterals (positive : 0 < solver.backend.numVars) {count : Nat} {literal : Lit}
    (member : literal ∈ solver.freshLiterals count) : (solver.allocated count).Live literal := by
  obtain ⟨number, inside, rfl⟩ := List.mem_map.1 member
  have bounds := List.mem_range'_1.1 inside
  refine Or.inr ⟨rfl, ?_, ?_⟩
  · change 2 ≤ (number : Int).natAbs
    rw [Int.natAbs_natCast]
    omega
  · change (number : Int).natAbs ≤ solver.backend.numVars + count
    rw [Int.natAbs_natCast]
    omega

/-! ## Tensors of fresh variables -/

/-- Going through members with a new variable for each allocates as many fresh literals. -/
theorem runOn_visit_newVariable {α : Type} (members : List α) :
    ∃ found, (visit (fun _ => newVariable) members).runOn solver =
        (.ok found, solver.allocated members.length) ∧
      found.val = solver.freshLiterals members.length := by
  induction members generalizing solver with
  | nil => exact ⟨⟨[], rfl⟩, rfl, rfl⟩
  | cons member members hypothesis =>
      obtain ⟨found, ran, isFound⟩ := @hypothesis (solver.allocated 1)
      refine ⟨⟨solver.nextLiteral :: found.val, congrArg Nat.succ found.2⟩, ?_, ?_⟩
      · unfold visit
        rw [Act.runOn_bind_ok (runOn_newVariable solver)]
        change Act.runOn (visit (fun _ => newVariable) members >>= _) (solver.allocated 1) = _
        rw [Act.runOn_bind_ok ran, allocated_allocated, Nat.add_comm]
        rfl
      · change solver.nextLiteral :: found.val = _
        rw [isFound, List.length_cons, Nat.add_comm, freshLiterals_add]
        rfl

/-- The tensor of fresh variables of a shape. -/
theorem runOn_variableTensor [Platform] {shape : Shape} (listable : shape.Listable) :
    ∃ tensor, (variableTensor shape).runOn solver = (.ok tensor, solver.allocated shape.size) ∧
      tensor.shape = shape ∧ tensor.toList = solver.freshLiterals shape.size := by
  obtain ⟨found, ran, isFound⟩ := @runOn_visit_newVariable solver _ shape.indices
  have listed : (liftM (Shape.checkRanges (shape.map Count.toWhole)) : Act Solver Unit).runOn solver =
      (.ok (), solver) := by
    rw [Act.runOn_lift, Shape.checkRanges_eq_ok.2 listable]
  refine ⟨Tensor.ofList shape found.val (by rw [found.2, Shape.length_indices]), ?_, rfl, ?_⟩
  · unfold variableTensor Tensor.generateM
    rw [Act.runOn_bind_ok listed, Act.runOn_bind_ok ran]
    exact congrArg (fun count => (_, solver.allocated count)) (Shape.length_indices shape)
  · rw [Tensor.toList_ofList, isFound, Shape.length_indices]

/-- Where the coordinates on some axis cannot be listed, no variable is allocated. -/
theorem runOn_variableTensor_refused [Platform] (solver : Solver) {shape : Shape}
    (unlistable : ¬shape.Listable) :
    ∃ fault, (fault.category = .overflow ∨ fault.category = .memory) ∧
      (variableTensor shape).runOn solver = (.error fault, solver) := by
  obtain ⟨fault, wants, refused⟩ := Shape.exists_refused_shape unlistable
  have unlisted : (liftM (Shape.checkRanges (shape.map Count.toWhole)) : Act Solver Unit).runOn solver =
      (.error fault, solver) := by
    rw [Act.runOn_lift, refused]
  exact ⟨fault, wants, Act.runOn_bind_error unlisted _⟩

/-- The number of elements of tensors of some shapes. -/
def totalSize (shapes : List Shape) : Nat := (shapes.map Shape.size).sum

/-- Tensors of fresh variables get them one after the other. -/
theorem runOn_variableTensors [Platform] {shapes : List Shape} (listable : ∀ shape ∈ shapes, shape.Listable) :
    ∃ tensors, (shapes.mapM variableTensor).runOn solver =
        (.ok tensors, solver.allocated (totalSize shapes)) ∧
      tensors.map Tensor.shape = shapes ∧
      tensors.flatMap Tensor.toList = solver.freshLiterals (totalSize shapes) := by
  induction shapes generalizing solver with
  | nil => exact ⟨[], rfl, rfl, rfl⟩
  | cons shape shapes hypothesis =>
      obtain ⟨listableHead, listableRest⟩ := List.forall_mem_cons.1 listable
      obtain ⟨tensor, ran, isShape, isList⟩ := @runOn_variableTensor solver _ shape listableHead
      obtain ⟨tensors, ranRest, areShapes, areLists⟩ :=
        @hypothesis (solver.allocated shape.size) listableRest
      have total : totalSize (shape :: shapes) = shape.size + totalSize shapes := by
        simp [totalSize]
      refine ⟨tensor :: tensors, ?_, ?_, ?_⟩
      · rw [List.mapM_cons, Act.runOn_bind_ok ran, Act.runOn_bind_ok ranRest, total,
          allocated_allocated]
        rfl
      · rw [List.map_cons, isShape, areShapes]
      · rw [List.flatMap_cons, isList, areLists, total, freshLiterals_add]

/-- The first shape whose coordinates cannot be listed ends the allocation. -/
theorem runOn_variableTensors_refused [Platform] {shapes : List Shape}
    (unlistable : ¬∀ shape ∈ shapes, shape.Listable) :
    ∃ fault after, (fault.category = .overflow ∨ fault.category = .memory) ∧
      (shapes.mapM variableTensor).runOn solver = (.error fault, after) := by
  induction shapes generalizing solver with
  | nil => exact absurd (fun _ impossible => nomatch impossible) unlistable
  | cons shape shapes hypothesis =>
      rw [List.mapM_cons]
      by_cases listable : shape.Listable
      · have unlistableRest : ¬∀ other ∈ shapes, other.Listable := fun listableRest =>
          unlistable (List.forall_mem_cons.2 ⟨listable, listableRest⟩)
        obtain ⟨tensor, ran, _, _⟩ := @runOn_variableTensor solver _ shape listable
        obtain ⟨fault, after, wants, ranRest⟩ :=
          @hypothesis (solver.allocated shape.size) unlistableRest
        exact ⟨fault, after, wants, by
          rw [Act.runOn_bind_ok ran, Act.runOn_bind_error ranRest]⟩
      · obtain ⟨fault, wants, ran⟩ := runOn_variableTensor_refused solver listable
        exact ⟨fault, solver, wants, Act.runOn_bind_error ran _⟩

end TensorLogic.Solver
