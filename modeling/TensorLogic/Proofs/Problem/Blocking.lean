/-
Module: TensorLogic.Proofs.Problem.Blocking
Purpose: Reading a solution from a model, and excluding all solutions with the same selected cells.
Main exports: Problem.projection_map, Problem.length_projection, Problem.runOn_readSolution,
  Problem.differing, Problem.runOn_blocking, Problem.runOn_excluding
-/
import TensorLogic.Proofs.Problem.Encoding
import TensorLogic.Proofs.Solver.Models

namespace TensorLogic.Problem

variable {problem : Problem} {unknowns : List (Tensor Lit)} {found : List Solution} {solver : Solver}
  {solution : Solution}

/-! ## The selected cells -/

theorem selected_map {α β : Type} (function : α → β) (mask : Tensor Datum) (tensor : Tensor α) :
    selected mask (tensor.map function) = (selected mask tensor).map function := by
  unfold selected
  rw [Tensor.toList_map, List.zip_map_right, List.filter_map, List.map_map, List.map_map]
  rfl

theorem projection_map {α β : Type} (function : α → β) (tensors : List (Tensor α)) :
    problem.projection (tensors.map fun tensor => tensor.map function) =
      (problem.projection tensors).map function := by
  unfold projection
  rw [List.zip_map_right, List.flatMap_map, List.map_flatMap]
  simp only [Prod.map, id_eq, selected_map]

/-- Selecting and reading may be done in either order. -/
theorem projection_readUnder (assignment : Assignment) (unknowns : List (Tensor Lit)) :
    problem.projection (readUnder assignment unknowns) =
      (problem.projection unknowns).map assignment.value :=
  projection_map assignment.value unknowns

/-- Selected cells are cells. -/
theorem mem_cells_of_mem_projection {α : Type} {tensors : List (Tensor α)} {cell : α}
    (member : cell ∈ problem.projection tensors) : cell ∈ cells tensors := by
  obtain ⟨⟨mask, tensor⟩, inside, isSelected⟩ := List.mem_flatMap.1 member
  obtain ⟨⟨datum, value⟩, isPair, rfl⟩ := List.mem_map.1 isSelected
  exact List.mem_flatMap.2 ⟨tensor, (List.of_mem_zip inside).2,
    (List.of_mem_zip (List.mem_filter.1 isPair).1).2⟩

/-- From a tensor of the shape of the mask as many cells are selected as the mask has true ones. -/
theorem length_selected {α : Type} {mask : Tensor Datum} {tensor : Tensor α}
    (sameShape : tensor.shape = mask.shape) :
    (selected mask tensor).length = (mask.toList.filter Datum.truth).length := by
  have sameLength : mask.toList.length = tensor.toList.length := by
    rw [Tensor.length_toList, Tensor.length_toList, sameShape]
  have marks : ((mask.toList.zip tensor.toList).filter (Datum.truth ∘ Prod.fst)).map Prod.fst =
      mask.toList.filter Datum.truth := by
    rw [← List.filter_map, List.map_fst_zip (Nat.le_of_eq sameLength)]
  rw [← marks, List.length_map]
  exact List.length_map ..

/-- There are as many selected cells in tensors of the right shapes as in the masks. -/
theorem length_projection {α : Type} {tensors : List (Tensor α)}
    (sameShapes : tensors.map Tensor.shape = problem.shapes) :
    (problem.projection tensors).length = problem.selectedCount := by
  unfold shapes at sameShapes
  unfold projection selectedCount
  generalize problem.masks = masks at sameShapes ⊢
  induction masks generalizing tensors with
  | nil => simp
  | cons mask masks hypothesis =>
      cases tensors with
      | nil => cases sameShapes
      | cons tensor tensors =>
          rw [List.map_cons, List.map_cons, List.cons.injEq] at sameShapes
          rw [List.zip_cons_cons, List.flatMap_cons, List.flatMap_cons, List.length_append,
            List.length_append, hypothesis sameShapes.2]
          exact congrArg (· + _) (length_selected sameShapes.1)

/-! ## Reading a solution -/

/-- Nothing but the journal has changed. -/
def journaling : Passage Solver where
  Reaches before after := ∃ journal, after = { before with journal }
  reaches_refl := fun solver => ⟨solver.journal, rfl⟩
  reaches_trans := by
    rintro first _ _ ⟨_, rfl⟩ ⟨journal, rfl⟩
    exact ⟨journal, rfl⟩

theorem journaling_note (event : Event) (solver : Solver) :
    journaling.Reaches solver (HasJournal.note event solver) := ⟨_, rfl⟩

/-- What a model that was found gives to the unknown tensors is read and checked. -/
theorem runOn_readSolution [Platform] (wellPosed : problem.WellPosed) (hosts : problem.Hosts unknowns solver)
    {model : Assignment} (isModel : solver.backend.decision = some (.model model))
    (solves : problem.Solves (readUnder model unknowns)) :
    ∃ journal, (problem.readSolution unknowns).runOn solver =
      (.ok (readUnder model unknowns), { solver with journal }) := by
  have decoded := Solver.runOn_decodeTensors isModel hosts.wellFormed fun literal inside =>
    hosts.live inside
  have outcome := outcome_check wellPosed solves.1 solver
  have passed : journaling.Keeps
      (problem.check (onTruth (readUnder model unknowns)) : Act Solver Bool) :=
    keeps_check journaling_note (onTruth (readUnder model unknowns))
  obtain ⟨journal, isAfter⟩ := passed solver
  have checked : (problem.check (onTruth (readUnder model unknowns))).runOn solver =
      (.ok true, { solver with journal }) := Prod.ext (outcome.trans solves.2) isAfter
  refine ⟨journal, ?_⟩
  unfold readSolution
  rw [Act.runOn_bind_ok decoded]
  change Act.runOn (problem.check (onTruth (readUnder model unknowns)) >>= _) solver = _
  rw [Act.runOn_bind_ok checked]
  rfl

/-! ## Excluding solutions -/

/-- The literals that say that some of the given ones has another value than given. -/
def differing (literals : List Lit) (values : List Bool) : List Lit :=
  (literals.zip values).map fun (literal, value) => if value then literal.neg else literal

/-- The literals of a blocking clause are those of the unknowns or their negations, and live. -/
theorem live_differing {literals : List Lit} (live : ∀ literal ∈ literals, solver.Live literal)
    (values : List Bool) : ∀ literal ∈ differing literals values, solver.Live literal := by
  intro literal member
  obtain ⟨⟨original, value⟩, inside, rfl⟩ := List.mem_map.1 member
  have liveOriginal := live original (List.of_mem_zip inside).1
  cases value with
  | false => exact liveOriginal
  | true => exact liveOriginal.neg

/-- One of the literals holds exactly when the values are not the given ones. -/
theorem holdsAny_differing (wellFormed : solver.WellFormed) (assignment : Assignment)
    {literals : List Lit} (live : ∀ literal ∈ literals, solver.Live literal) {values : List Bool}
    (counted : literals.length = values.length) :
    Solver.holdsAny assignment (differing literals values) = true ↔
      values ≠ literals.map assignment.value := by
  induction literals generalizing values with
  | nil =>
      cases values with
      | nil => simp [differing, Solver.holdsAny]
      | cons => cases counted
  | cons literal literals hypothesis =>
      cases values with
      | nil => cases counted
      | cons value values =>
          have rest := hypothesis (fun other inside => live other (List.mem_cons_of_mem _ inside))
            (Nat.succ.inj counted)
          have negated := wellFormed.value_neg (live literal List.mem_cons_self) assignment
          have here : assignment.value (if value then literal.neg else literal) = true ↔
              value ≠ assignment.value literal := by
            cases value <;> simp [negated]
          have step : Solver.holdsAny assignment (differing (literal :: literals) (value :: values)) =
              (assignment.value (if value then literal.neg else literal) ||
                Solver.holdsAny assignment (differing literals values)) := rfl
          rw [step, Bool.or_eq_true, here, rest, List.map_cons, Ne, Ne, Ne, List.cons.injEq,
            not_and_or]

/-- The clause against a solution is written without changing the solver. -/
theorem runOn_blocking (hosts : problem.Hosts unknowns solver) (solution : Solution) :
    (problem.blocking unknowns solution).runOn solver =
      (.ok (differing (problem.projection unknowns) (problem.projection solution)), solver) := by
  unfold blocking
  rw [Act.runOn_bind_ok (Act.runOn_get solver)]
  apply Act.runOn_mapM
  intro member inside
  have live := hosts.live (mem_cells_of_mem_projection (List.of_mem_zip inside).1)
  exact Solver.runOn_xor_lift live member.2

/-- A solution is still open if it was before and differs from the excluded one. -/
theorem open_cons [Platform] {excluded : Solution} :
    problem.Open (excluded :: found) solution ↔ problem.Open found solution ∧
      problem.projection excluded ≠ problem.projection solution := by
  unfold Open
  rw [List.forall_mem_cons]
  constructor
  · rintro ⟨solves, differs, others⟩
    exact ⟨⟨solves, others⟩, differs⟩
  · rintro ⟨⟨solves, others⟩, differs⟩
    exact ⟨solves, differs, others⟩

/-- What a solver represents depends on its literals and its formula only. -/
theorem Represents.of_same [Platform] {after : Solver} (represents : problem.Represents unknowns found solver)
    (sameOwner : after.owner = solver.owner) (samePeriod : after.period = solver.period)
    (sameNumber : after.backend.numVars = solver.backend.numVars)
    (sameFormula : after.backend.formula = solver.backend.formula) :
    problem.Represents unknowns found after where
  shapes_eq := represents.shapes_eq
  cells_eq := by rw [represents.cells_eq, sameOwner, samePeriod]
  within := sameNumber ▸ represents.within
  wellFormed := ⟨sameFormula ▸ sameNumber ▸ represents.wellFormed.isOver,
    sameFormula ▸ represents.wellFormed.asserts_top⟩
  sound := sameFormula ▸ represents.sound
  complete := sameFormula ▸ represents.complete
  unique := sameFormula ▸ sameNumber ▸ represents.unique

/-- The clause against a solution excludes those with the same selected cells, and no others. -/
theorem Represents.excluding [Platform] (represents : problem.Represents unknowns found solver)
    (fits : problem.Fits solution) :
    problem.Represents unknowns (solution :: found) (solver.asserted
      (differing (problem.projection unknowns) (problem.projection solution))) := by
  have live : ∀ literal ∈ problem.projection unknowns, solver.Live literal := fun literal inside =>
    represents.live (mem_cells_of_mem_projection inside)
  have counted : (problem.projection unknowns).length = (problem.projection solution).length := by
    rw [length_projection represents.shapes_eq, length_projection fits]
  have models : ∀ model : Assignment, (solver.asserted
      (differing (problem.projection unknowns) (problem.projection solution))).backend.formula.eval
        model = true ↔ solver.backend.formula.eval model = true ∧
          problem.projection solution ≠ problem.projection (readUnder model unknowns) := by
    intro model
    rw [Solver.eval_asserted represents.wellFormed, Bool.and_eq_true,
      holdsAny_differing represents.wellFormed model live counted, projection_readUnder]
  refine ⟨represents.toHosts.of_asserted (live_differing live _), ?_, ?_, ?_⟩
  · intro model holds
    obtain ⟨isModel, differs⟩ := (models model).1 holds
    exact open_cons.2 ⟨represents.sound model isModel, differs⟩
  · intro other isOpen
    obtain ⟨isOpenBefore, differs⟩ := open_cons.1 isOpen
    obtain ⟨model, isModel, reads⟩ := represents.complete other isOpenBefore
    exact ⟨model, (models model).2 ⟨isModel, reads.symm ▸ differs⟩, reads⟩
  · intro model rival holds rivalHolds same
    rw [Solver.numVars_asserted]
    exact represents.unique model rival ((models model).1 holds).1 ((models rival).1 rivalHolds).1
      same

/-- Adding the clause against a solution excludes it, and makes no search. -/
theorem runOn_excluding [Platform] (represents : problem.Represents unknowns found solver)
    (fits : problem.Fits solution) :
    ∃ after, (Solver.addClause (differing (problem.projection unknowns)
        (problem.projection solution))).runOn solver = (.ok (), after) ∧
      problem.Represents unknowns (solution :: found) after ∧ solver.Unsearched after := by
  have live : ∀ literal ∈ problem.projection unknowns, solver.Live literal := fun literal inside =>
    represents.live (mem_cells_of_mem_projection inside)
  have adds := Solver.runOn_addClause represents.wellFormed
    (live_differing live (problem.projection solution))
  have unsearched := (Solver.keeps_addClause (differing (problem.projection unknowns)
    (problem.projection solution))).of_building Solver.Step.unsearched solver
  rw [adds] at unsearched
  exact ⟨_, adds, represents.excluding fits, unsearched⟩

end TensorLogic.Problem
