/-
Module: TensorLogic.Proofs.Problem.Encoding
Purpose: The models of the formula for a problem are its solutions.
Main exports: Problem.readUnder, Problem.Open, Problem.Represents, Problem.runOn_encode,
  Problem.FailsOn, Problem.exists_failsOn, Problem.boundless
-/
import TensorLogic.Proofs.Problem.Solution
import TensorLogic.Proofs.Solver.Allocation
import TensorLogic.Proofs.Solver.Encoding

namespace TensorLogic.Problem

/-- The tensors that an assignment gives to the unknown ones. -/
def readUnder (assignment : Assignment) (unknowns : List (Tensor Lit)) : Solution :=
  unknowns.map fun tensor => tensor.map assignment.value

/-- All cells of some tensors, one tensor after the other. -/
def cells {α : Type} (tensors : List (Tensor α)) : List α := tensors.flatMap Tensor.toList

/-- A solution that differs from those found so far in a selected cell. -/
def Open [Platform] (problem : Problem) (found : List Solution) (solution : Solution) : Prop :=
  problem.Solves solution ∧
    ∀ other ∈ found, problem.projection other ≠ problem.projection solution

/-- The cells of unknown tensors are the first variables of a solver after the constant, in their
order. -/
structure Hosts (problem : Problem) (unknowns : List (Tensor Lit)) (solver : Solver) : Prop where
  shapes_eq : unknowns.map Tensor.shape = problem.shapes
  cells_eq : cells unknowns = (List.range' 2 (Solver.totalSize problem.shapes)).map fun number =>
    ⟨.formula solver.owner solver.period, (number : Nat)⟩
  within : 1 + Solver.totalSize problem.shapes ≤ solver.backend.numVars
  wellFormed : solver.WellFormed

/-- The models of the formula of a solver stand for the solutions that are still open, each for one. -/
structure Represents [Platform] (problem : Problem) (unknowns : List (Tensor Lit)) (found : List Solution)
    (solver : Solver) : Prop extends problem.Hosts unknowns solver where
  sound : ∀ model : Assignment, solver.backend.formula.eval model = true →
    problem.Open found (readUnder model unknowns)
  complete : ∀ solution, problem.Open found solution → ∃ model : Assignment,
    solver.backend.formula.eval model = true ∧ readUnder model unknowns = solution
  unique : ∀ model rival : Assignment, solver.backend.formula.eval model = true →
    solver.backend.formula.eval rival = true →
      readUnder model unknowns = readUnder rival unknowns →
        model.AgreeUpTo solver.backend.numVars rival

variable {problem : Problem} {unknowns : List (Tensor Lit)} {found : List Solution} {solver : Solver}

/-! ## Tensors and their cells -/

theorem readUnder_shapes (assignment : Assignment) (unknowns : List (Tensor Lit)) :
    (readUnder assignment unknowns).map Tensor.shape = unknowns.map Tensor.shape := by
  rw [readUnder, List.map_map]
  rfl

/-- The cells of what is read are read one by one. -/
theorem cells_readUnder (assignment : Assignment) (unknowns : List (Tensor Lit)) :
    cells (readUnder assignment unknowns) = (cells unknowns).map assignment.value := by
  rw [cells, cells, readUnder, List.flatMap_map, List.map_flatMap]
  rfl

/-- There are as many cells as the shapes of the tensors say. -/
theorem length_cells {α : Type} (tensors : List (Tensor α)) :
    (cells tensors).length = Solver.totalSize (tensors.map Tensor.shape) := by
  induction tensors with
  | nil => rfl
  | cons tensor tensors hypothesis =>
      rw [cells, List.flatMap_cons, List.length_append, Tensor.length_toList]
      change _ + (cells tensors).length = _
      rw [hypothesis]
      simp [Solver.totalSize]

/-- Tensors of given shapes are determined by their cells. -/
theorem eq_of_cells_eq {α : Type} {lefts rights : List (Tensor α)}
    (sameShapes : lefts.map Tensor.shape = rights.map Tensor.shape)
    (sameCells : cells lefts = cells rights) : lefts = rights := by
  induction lefts generalizing rights with
  | nil =>
      cases rights with
      | nil => rfl
      | cons => cases sameShapes
  | cons left lefts hypothesis =>
      cases rights with
      | nil => cases sameShapes
      | cons right rights =>
          rw [List.map_cons, List.map_cons, List.cons.injEq] at sameShapes
          rw [cells, cells, List.flatMap_cons, List.flatMap_cons] at sameCells
          have sameLength : left.toList.length = right.toList.length := by
            rw [Tensor.length_toList, Tensor.length_toList, sameShapes.1]
          obtain ⟨sameHead, sameTail⟩ := List.append_inj sameCells sameLength
          rw [Tensor.ext_toList sameShapes.1 sameHead, hypothesis sameShapes.2 sameTail]

namespace Hosts

/-- The values of the cells under an assignment are those of their variables. -/
theorem cells_readUnder_eq (hosts : problem.Hosts unknowns solver) (assignment : Assignment) :
    cells (readUnder assignment unknowns) =
      (List.range' 2 (Solver.totalSize problem.shapes)).map assignment := by
  rw [cells_readUnder, hosts.cells_eq, List.map_map]
  apply List.map_congr_left
  intro number inside
  have positive : 0 < number := by
    have atLeast := (List.mem_range'_1.1 inside).1
    omega
  simp [Assignment.value, Assignment.holds, positive]

/-- The unknowns of a problem are live literals. -/
theorem live (hosts : problem.Hosts unknowns solver) {literal : Lit}
    (inside : literal ∈ cells unknowns) : solver.Live literal := by
  rw [hosts.cells_eq] at inside
  obtain ⟨number, member, rfl⟩ := List.mem_map.1 inside
  have bounds := List.mem_range'_1.1 member
  have within := hosts.within
  refine Or.inr ⟨rfl, ?_, ?_⟩
  · change 2 ≤ (number : Int).natAbs
    rw [Int.natAbs_natCast]
    omega
  · change (number : Int).natAbs ≤ solver.backend.numVars
    rw [Int.natAbs_natCast]
    omega

/-- Whatever is read from the unknowns fits the masks. -/
theorem fits (hosts : problem.Hosts unknowns solver) (assignment : Assignment) :
    problem.Fits (readUnder assignment unknowns) := by
  unfold Fits
  rw [readUnder_shapes, hosts.shapes_eq]

/-- What is read depends on the variables of the cells only. -/
theorem readUnder_congr (hosts : problem.Hosts unknowns solver) {left right : Assignment}
    (agree : left.AgreeUpTo (1 + Solver.totalSize problem.shapes) right) :
    readUnder left unknowns = readUnder right unknowns := by
  apply eq_of_cells_eq
  · rw [readUnder_shapes, readUnder_shapes]
  · rw [hosts.cells_readUnder_eq, hosts.cells_readUnder_eq]
    apply List.map_congr_left
    intro number inside
    have bounds := List.mem_range'_1.1 inside
    exact agree number (by omega) (by omega)

/-- Assignments that give the same to the unknown tensors agree on the variables of the cells. -/
theorem agree_of_readUnder_eq (hosts : problem.Hosts unknowns solver) {left right : Assignment}
    (sameTop : left 1 = right 1) (same : readUnder left unknowns = readUnder right unknowns) :
    left.AgreeUpTo (1 + Solver.totalSize problem.shapes) right := by
  have sameCells := congrArg cells same
  rw [hosts.cells_readUnder_eq, hosts.cells_readUnder_eq] at sameCells
  intro number positive bounded
  by_cases isTop : number = 1
  · rw [isTop, sameTop]
  · exact List.map_inj_left.1 sameCells number (List.mem_range'_1.2 ⟨by omega, by omega⟩)

/-- The unknowns of a problem stay at hand as the solver grows. -/
theorem of_grows {after : Solver} (hosts : problem.Hosts unknowns solver)
    (grows : solver.Grows after) (wellFormed : after.WellFormed) : problem.Hosts unknowns after where
  shapes_eq := hosts.shapes_eq
  cells_eq := by rw [hosts.cells_eq, grows.owner_eq, grows.period_eq]
  within := Nat.le_trans hosts.within grows.numVars_le
  wellFormed := wellFormed

/-- The unknowns of a problem stay at hand when a clause is asserted. -/
theorem of_asserted (hosts : problem.Hosts unknowns solver) {literals : List Lit}
    (live : ∀ literal ∈ literals, solver.Live literal) :
    problem.Hosts unknowns (solver.asserted literals) where
  shapes_eq := hosts.shapes_eq
  cells_eq := by rw [hosts.cells_eq, Solver.owner_asserted, Solver.period_asserted]
  within := by
    rw [Solver.numVars_asserted]
    exact hosts.within
  wellFormed := hosts.wellFormed.asserted live

/-- Every solution is what some assignment gives to the unknown tensors. -/
theorem exists_readUnder_eq (hosts : problem.Hosts unknowns solver) {solution : Solution}
    (fits : problem.Fits solution) :
    ∃ assignment : Assignment, assignment 1 = true ∧ readUnder assignment unknowns = solution := by
  refine ⟨fun number => if number = 1 then true else (cells solution).getD (number - 2) false, rfl, ?_⟩
  apply eq_of_cells_eq
  · rw [readUnder_shapes, hosts.shapes_eq, fits]
  · have counted : Solver.totalSize problem.shapes = (cells solution).length := by
      rw [length_cells, fits]
    rw [hosts.cells_readUnder_eq, counted]
    apply List.ext_getElem
    · simp
    · intro place bound inside
      have notTop : 2 + place ≠ 1 := by omega
      have atPlace : 2 + place - 2 = place := by omega
      rw [List.getElem_map, List.getElem_range', Nat.one_mul, if_neg notTop, atPlace,
        List.getD_eq_getElem?_getD, List.getElem?_eq_getElem inside, Option.getD_some]

end Hosts

/-! ## Building the formula -/

theorem read_environment {β γ : Type} (meaning : β → Value γ) (tensors : List (Tensor (Value β))) :
    (environment tensors).read meaning =
      environment (tensors.map fun tensor => tensor.map (Value.read meaning)) := by
  unfold environment Environment.read
  rw [List.zipIdx_map, List.map_map, List.map_map]
  apply List.map_congr_left
  intro member _
  obtain ⟨tensor, number⟩ := member
  change (toString number, Value.tensor none tensor.shape (Value.readAll meaning tensor.toList)) = _
  rw [Value.readAll_eq_map]
  rfl

/-- The names of the unknown tensors are read as the tensors that an assignment gives to them. -/
theorem read_unknowns (assignment : Assignment) (unknowns : List (Tensor Lit)) :
    (environment (unknowns.map fun tensor => tensor.map Value.elem)).read assignment.truthOf =
      environment (onTruth (readUnder assignment unknowns)) := by
  rw [read_environment, List.map_map, onTruth, readUnder, List.map_map]
  apply congrArg environment
  apply List.map_congr_left
  intro tensor _
  apply Tensor.ext_toList
  · rfl
  change ((tensor.toList.map Value.elem).map (Value.read assignment.truthOf)) =
    ((tensor.toList.map assignment.value).map Value.bool)
  rw [List.map_map, List.map_map]
  rfl

/-- A cleared solver hosts the unknown tensors that are allocated next. -/
theorem hosts_allocated [Platform] (listable : problem.Listable) (solver : Solver) :
    ∃ unknowns, (problem.shapes.mapM Solver.variableTensor).runOn solver.cleared =
        (.ok unknowns, solver.cleared.allocated (Solver.totalSize problem.shapes)) ∧
      problem.Hosts unknowns (solver.cleared.allocated (Solver.totalSize problem.shapes)) := by
  obtain ⟨unknowns, ran, areShapes, areCells⟩ :=
    @Solver.runOn_variableTensors solver.cleared _ problem.shapes listable
  exact ⟨unknowns, ran, areShapes, areCells, Nat.le_refl _,
    (Solver.wellFormed_cleared solver).allocated _⟩

/-- Where the unknowns are at hand, the environment of the predicate provides literals of the right kinds.
-/
theorem provides_unknowns (hosts : problem.Hosts unknowns solver) :
    solver.Provides problem.context
      (environment (unknowns.map fun tensor => tensor.map Value.elem)) := by
  intro name kind isKind
  have counted : (unknowns.map fun tensor => tensor.map Value.elem).length =
      problem.masks.length := by
    have lengths := congrArg List.length hosts.shapes_eq
    rw [List.length_map, shapes, List.length_map] at lengths
    rw [List.length_map, lengths]
  have each : ∀ tensor ∈ unknowns.map fun tensor => tensor.map Value.elem,
      (Kind.tensor .elem).Contains solver.Holds (.ofTensor tensor) := by
    intro tensor inside
    obtain ⟨original, isUnknown, rfl⟩ := List.mem_map.1 inside
    refine ⟨none, original.shape, original.toList.map Value.elem, rfl, ?_⟩
    intro value member
    obtain ⟨literal, isLiteral, rfl⟩ := List.mem_map.1 member
    exact ⟨literal, rfl, hosts.live (List.mem_flatMap.2 ⟨original, isUnknown, isLiteral⟩)⟩
  obtain ⟨rfl, value, isValue, contains⟩ := lookup_environment
    (fun value => (Kind.tensor .elem).Contains solver.Holds value) counted each isKind
  exact ⟨value, isValue, contains⟩

/-- The predicate is compiled into a literal whose value in every model of the formula is the verdict on
the tensors that the model gives. -/
theorem runOn_compute [Platform] (wellPosed : problem.WellPosed) (hosts : problem.Hosts unknowns solver) :
    ∃ literal after, (problem.compute (Solver.algebra solver.owner)
        (unknowns.map fun tensor => tensor.map Value.elem)).runOn solver =
          (.ok (.elem literal), after) ∧
      after.WellFormed ∧ solver.Grows after ∧ solver.Unsearched after ∧ after.Live literal ∧
      ∀ model : Assignment, after.backend.formula.eval model = true →
        problem.verdict (readUnder model unknowns) = .ok (model.value literal) := by
  have agrees := fun assignment => Solver.agrees_on_truth (γ := Empty) hosts.wellFormed
    (provides_unknowns hosts) wellPosed.typed [] assignment (#[] : Journal)
  simp only [read_unknowns] at agrees
  have sameRun : (Solver.evaluate (environment (unknowns.map fun tensor => tensor.map Value.elem)) []
      problem.predicate).runOn solver = (problem.compute (Solver.algebra solver.owner)
        (unknowns.map fun tensor => tensor.map Value.elem)).runOn solver := rfl
  rw [sameRun] at agrees
  have unsearched := (Solver.keeps_evaluate
    (environment (unknowns.map fun tensor => tensor.map Value.elem)) []
    problem.predicate).of_building Solver.Step.unsearched solver
  rw [sameRun] at unsearched
  -- Whether there is a value does not depend on the assignment.
  have isVerdict : ∀ assignment, ∃ value : Value Empty,
      ((problem.compute Truth.algebra (onTruth (readUnder assignment unknowns))).runOn
        (#[] : Journal)).1 = .ok value ∧
      problem.verdict (readUnder assignment unknowns) = .ok value.truth := by
    intro assignment
    obtain ⟨holds, isHolds⟩ := wellPosed.evaluates _ (hosts.fits assignment)
    unfold verdict at isHolds ⊢
    rw [check_eq (hosts.fits assignment)] at isHolds ⊢
    obtain ⟨value, isValue, isTruth⟩ := Act.ok_of_bind isHolds
    refine ⟨value, isValue, ?_⟩
    rw [isHolds]
    exact isTruth.symm
  cases ran : (problem.compute (Solver.algebra solver.owner)
      (unknowns.map fun tensor => tensor.map Value.elem)).runOn solver with
  | mk outcome after =>
      simp only [ran] at agrees unsearched
      have related : ∀ assignment, ∃ result value, outcome = .ok result ∧
          problem.verdict (readUnder assignment unknowns) = .ok value.truth ∧
          (Solver.algebraValuation solver.owner assignment).Means (after, (#[] : Journal)) result
            (value : Value Empty) := by
        intro assignment
        obtain ⟨value, isValue, isTruth⟩ := isVerdict assignment
        obtain ⟨_, _, same⟩ := agrees assignment
        unfold compute at isValue
        rw [isValue] at same
        cases same with
        | ok means => exact ⟨_, value, rfl, isTruth, means⟩
      obtain ⟨_, _, rfl, _, ⟨literal, rfl, live⟩, _⟩ := related fun _ => false
      obtain ⟨wellFormed, grows, _⟩ := agrees fun _ => false
      refine ⟨literal, after, rfl, wellFormed, grows, unsearched, live, fun model holds => ?_⟩
      obtain ⟨result, _, isResult, isTruth, _, value, rfl, valued⟩ := related model
      cases isResult
      have isValue : model.value literal = value := valued holds
      rw [isTruth, isValue]
      rfl

/-- Once the predicate is compiled and its literal is asserted, the models are the solutions. -/
theorem represents_of_compiled [Platform] {start compiled : Solver} {literal : Lit}
    (hosts : problem.Hosts unknowns start) (bare : start.backend.formula = [[1]])
    (counted : start.backend.numVars = 1 + Solver.totalSize problem.shapes)
    (grows : start.Grows compiled) (wellFormed : compiled.WellFormed) (live : compiled.Live literal)
    (means : ∀ model : Assignment, compiled.backend.formula.eval model = true →
      problem.verdict (readUnder model unknowns) = .ok (model.value literal)) :
    problem.Represents unknowns [] (compiled.asserted [literal]) := by
  have liveAll : ∀ other ∈ [literal], compiled.Live other := by
    intro other member
    exact List.mem_singleton.1 member ▸ live
  have models : ∀ model : Assignment,
      (compiled.asserted [literal]).backend.formula.eval model = true ↔
        compiled.backend.formula.eval model = true ∧ model.value literal = true := by
    intro model
    rw [Solver.eval_asserted wellFormed, Bool.and_eq_true, Solver.holdsAny, List.any_cons,
      List.any_nil, Bool.or_false]
  have bareModels : ∀ model : Assignment, model 1 = true →
      start.backend.formula.eval model = true := by
    intro model isTop
    rw [bare]
    simpa [Formula.eval, Clause.eval, Assignment.holds] using isTop
  have grown : (compiled.asserted [literal]).WellFormed := wellFormed.asserted liveAll
  have hosting : problem.Hosts unknowns (compiled.asserted [literal]) :=
    (hosts.of_grows grows wellFormed).of_asserted liveAll
  refine ⟨hosting, ?_, ?_, ?_⟩
  · intro model holds
    obtain ⟨isModel, isTrue⟩ := (models model).1 holds
    refine ⟨⟨hosting.fits model, ?_⟩, ?_⟩
    · rw [means model isModel, isTrue]
    · intro other impossible
      cases impossible
  · intro solution isOpen
    obtain ⟨assignment, isTop, reads⟩ := hosts.exists_readUnder_eq isOpen.1.1
    obtain ⟨model, agree, isModel, _⟩ :=
      grows.extends_uniquely assignment (bareModels assignment isTop)
    have readsModel : readUnder model unknowns = solution := by
      rw [← reads]
      exact (hosts.readUnder_congr (counted ▸ agree)).symm
    refine ⟨model, (models model).2 ⟨isModel, ?_⟩, readsModel⟩
    have isVerdict := means model isModel
    rw [readsModel, isOpen.1.2] at isVerdict
    exact (Except.ok.inj isVerdict).symm
  · intro model rival holds rivalHolds same
    rw [Solver.numVars_asserted]
    have isModel := ((models model).1 holds).1
    have isRival := ((models rival).1 rivalHolds).1
    have sameTop : model 1 = rival 1 :=
      (wellFormed.top_holds isModel).trans (wellFormed.top_holds isRival).symm
    have agree : model.AgreeUpTo start.backend.numVars rival :=
      counted ▸ hosts.agree_of_readUnder_eq sameTop same
    have startHolds := grows.keeps_eval isModel
    -- Both are extensions of one model of the formula before the predicate was compiled.
    obtain ⟨extension, _, _, only⟩ := grows.extends_uniquely model startHolds
    have first := only model (fun _ _ _ => rfl) isModel
    have second := only rival agree isRival
    exact first.symm.trans second

/-- Clearing the solver and compiling the predicate makes the models of the formula the solutions of the
problem, whatever the solver was used for before.  No search is made. -/
theorem runOn_encode [Platform] (wellPosed : problem.WellPosed) (listable : problem.Listable)
    (solver : Solver) :
    ∃ unknowns after, problem.encode.runOn solver = (.ok unknowns, after) ∧
      problem.Represents unknowns [] after ∧ solver.Unsearched after := by
  obtain ⟨unknowns, allocates, hosts⟩ := hosts_allocated listable solver
  obtain ⟨start, isStart⟩ : ∃ start, start =
      solver.cleared.allocated (Solver.totalSize problem.shapes) := ⟨_, rfl⟩
  rw [← isStart] at allocates hosts
  obtain ⟨literal, compiled, computes, wellFormed, grows, unsearched, live, means⟩ :=
    runOn_compute wellPosed hosts
  have liveAll : ∀ other ∈ [literal], compiled.Live other := by
    intro other member
    exact List.mem_singleton.1 member ▸ live
  have asserts : (Solver.assertAny [.elem literal]).runOn compiled =
      (.ok (), compiled.asserted [literal]) := by
    unfold Solver.assertAny
    have reads := Solver.runOn_operands liveAll
    rw [List.map_singleton] at reads
    rw [Act.runOn_bind_ok reads, Solver.runOn_addClause wellFormed liveAll]
  refine ⟨unknowns, compiled.asserted [literal], ?_, ?_, ?_⟩
  · unfold encode
    rw [Act.runOn_bind_ok (Solver.runOn_clear solver), Act.runOn_bind_ok allocates,
      Act.runOn_bind_ok (Act.runOn_get _), Act.runOn_bind_ok computes, Act.runOn_bind_ok asserts]
    rfl
  · have bare : start.backend.formula = [[1]] := by
      rw [isStart]
      rfl
    have counted : start.backend.numVars = 1 + Solver.totalSize problem.shapes := by
      rw [isStart]
      rfl
    exact represents_of_compiled hosts bare counted grows wellFormed live means
  · have started : solver.Unsearched start := by
      rw [isStart]
      exact ⟨rfl, rfl⟩
    have asserted : compiled.Unsearched (compiled.asserted [literal]) := by
      have added := (Solver.keeps_addClause [literal]).of_building Solver.Step.unsearched compiled
      rwa [Solver.runOn_addClause wellFormed liveAll] at added
    exact Solver.unsearching.reaches_trans started
      (Solver.unsearching.reaches_trans unsearched asserted)

/-! ## Where no formula is built -/

/-- The formula for a problem cannot be built on a solver, so that every way to solve the problem there fails
with the same fault. -/
structure FailsOn [Platform] (problem : Problem) (solver : Solver) (fault : Fault) : Prop where
  encode_eq : (problem.encode.runOn solver).1 = .error fault
  isSolvable_eq : (problem.isSolvable.runOn solver).1 = .error fault
  solveOne_eq : (problem.solveOne.runOn solver).1 = .error fault
  solveAll_eq : ∀ limit, ((problem.solveAll limit).runOn solver).1 = .error fault

/-- Every way to solve a problem starts with encoding it, and fails where this does. -/
theorem FailsOn.of_encode [Platform] {fault : Fault} {after : Solver}
    (encodes : problem.encode.runOn solver = (.error fault, after)) : problem.FailsOn solver fault where
  encode_eq := congrArg Prod.fst encodes
  isSolvable_eq := congrArg Prod.fst (Act.runOn_bind_error encodes _)
  solveOne_eq := congrArg Prod.fst (Act.runOn_bind_error encodes _)
  solveAll_eq := fun _ => congrArg Prod.fst (Act.runOn_bind_error encodes _)

/-- Where the coordinates on some axis cannot be listed, the problem cannot be solved, whatever its predicate
is. -/
theorem exists_failsOn [Platform] (unlistable : ¬problem.Listable) (solver : Solver) :
    ∃ fault, (fault.category = .overflow ∨ fault.category = .memory) ∧ problem.FailsOn solver fault := by
  obtain ⟨fault, after, wants, allocates⟩ :=
    @Solver.runOn_variableTensors_refused solver.cleared _ problem.shapes unlistable
  have encodes : problem.encode.runOn solver = (.error fault, after) := by
    unfold encode
    rw [Act.runOn_bind_ok (Solver.runOn_clear solver), Act.runOn_bind_error allocates]
  exact ⟨fault, wants, .of_encode encodes⟩

/-- Nothing is asked of one tensor, which has no cells, but a dimension that does not fit into a machine
word. -/
def boundless : Problem where
  masks := [.ofList [.number 0x8000000000000000, 0] [] (by decide)]
  predicate := .top

/-- The problem without cells is solved by everything of its shape. -/
theorem boundless_solves [Platform] {solution : Solution} (fits : boundless.Fits solution) :
    boundless.Solves solution := by
  refine ⟨fits, ?_⟩
  unfold verdict
  rw [check_eq fits]
  rfl

theorem boundless_wellPosed [Platform] : boundless.WellPosed :=
  ⟨.top, fun _ fits => ⟨true, (boundless_solves fits).2⟩⟩

theorem exists_boundless_solves [Platform] : ∃ solution, boundless.Solves solution :=
  ⟨[.ofList [.number 0x8000000000000000, 0] [] (by decide)], boundless_solves rfl⟩

attribute [local instance] Platform.usual in
/-- The axis that is too long is refused, since the empty one behind it passes. -/
theorem boundless_failsOn (solver : Solver) : boundless.FailsOn solver .hugeAxis := by
  have encodes : boundless.encode.runOn solver = (.error .hugeAxis, solver.cleared) := by
    unfold encode
    rw [Act.runOn_bind_ok (Solver.runOn_clear solver)]
    rfl
  exact .of_encode encodes

end TensorLogic.Problem
