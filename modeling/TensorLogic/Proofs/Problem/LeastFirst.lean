/-
Module: TensorLogic.Proofs.Problem.LeastFirst
Purpose: With an engine that finds least models, solutions are enumerated in lexicographic order.
Main exports: Problem.Precedes, Problem.IsLeastOfRow, Problem.Enumerated.reverse_of_ends,
  Problem.solveAll_least_first
-/
import TensorLogic.Proofs.Problem.Enumeration

namespace TensorLogic

/-! ## The lexicographic order -/

section

variable {lefts rights : List Bool}

/-- Sequences are in order where their first members are, or are equal and the rest is in order. -/
theorem lexLess_cons (left right : Bool) :
    lexLess (left :: lefts) (right :: rights) = true ↔
      left = false ∧ right = true ∨ left = right ∧ lexLess lefts rights = true := by
  simp [lexLess]

theorem lexLess_asymm (less : lexLess lefts rights = true) : lexLess rights lefts = false := by
  induction lefts generalizing rights with
  | nil => cases less
  | cons left lefts hypothesis =>
      cases rights with
      | nil => cases less
      | cons right rights =>
          rcases (lexLess_cons left right).1 less with ⟨rfl, rfl⟩ | ⟨rfl, rest⟩
          · rfl
          · simp [lexLess, hypothesis rest]

/-- Of two different sequences of the same length one is less. -/
theorem lexLess_total (sameLength : lefts.length = rights.length) :
    lefts = rights ∨ lexLess lefts rights = true ∨ lexLess rights lefts = true := by
  induction lefts generalizing rights with
  | nil => exact Or.inl (List.eq_nil_of_length_eq_zero sameLength.symm).symm
  | cons left lefts hypothesis =>
      cases rights with
      | nil => cases sameLength
      | cons right rights =>
          rw [lexLess_cons, lexLess_cons]
          rcases hypothesis (Nat.succ.inj sameLength) with rfl | less | greater
          · cases left <;> cases right <;> simp
          · cases left <;> cases right <;> simp [less]
          · cases left <;> cases right <;> simp [greater]

/-- Where values at consecutive numbers are compared, the lesser side is false at the first number
where the two sides differ. -/
theorem exists_of_lexLess {left right : Nat → Bool} {start count : Nat}
    (less : lexLess ((List.range' start count).map left) ((List.range' start count).map right) = true) :
    ∃ number, start ≤ number ∧ number < start + count ∧
      (∀ smaller, start ≤ smaller → smaller < number → left smaller = right smaller) ∧
      left number = false ∧ right number = true := by
  induction count generalizing start with
  | zero => cases less
  | succ count hypothesis =>
      rw [List.range'_succ, List.map_cons, List.map_cons, lexLess_cons] at less
      rcases less with ⟨isFalse, isTrue⟩ | ⟨same, rest⟩
      · exact ⟨start, Nat.le_refl _, by omega, fun _ _ _ => by omega, isFalse, isTrue⟩
      · obtain ⟨number, atLeast, below, agree, isFalse, isTrue⟩ := hypothesis rest
        refine ⟨number, by omega, by omega, fun smaller notBefore isSmaller => ?_, isFalse, isTrue⟩
        rcases Nat.eq_or_lt_of_le notBefore with rfl | later
        · exact same
        · exact agree smaller later isSmaller

end

namespace Problem

/-- A solution comes before another one in the lexicographic order of all cells, false before true. -/
def Precedes (left right : Solution) : Prop := lexLess (cells left) (cells right) = true

/-- The first solution among those with the same selected cells. -/
def IsLeastOfRow [Platform] (problem : Problem) (solution : Solution) : Prop :=
  problem.Solves solution ∧ ∀ other, problem.Solves other →
    problem.projection other = problem.projection solution →
      other = solution ∨ Precedes solution other

/-- No open solution comes before the one that is picked. -/
def PicksLeast [Platform] (problem : Problem) (found : List Solution) (solution : Solution) : Prop :=
  ∀ other, problem.Open found other → ¬Precedes other solution

variable {problem : Problem} {found : List Solution} {solution : Solution}

/-- Of two different solutions of a problem one comes first, as both have the same number of cells. -/
theorem precedes_total {left right : Solution} (fitsLeft : problem.Fits left)
    (fitsRight : problem.Fits right) : left = right ∨ Precedes left right ∨ Precedes right left := by
  have sameShapes : left.map Tensor.shape = right.map Tensor.shape := fitsLeft.trans fitsRight.symm
  have sameLength : (cells left).length = (cells right).length := by
    rw [length_cells, length_cells, sameShapes]
  rcases lexLess_total sameLength with sameCells | before | after
  · exact Or.inl (eq_of_cells_eq sameShapes sameCells)
  · exact Or.inr (Or.inl before)
  · exact Or.inr (Or.inr after)

/-- The least model gives the first solution that is open. -/
theorem picksLeast_readUnder [Platform] {engine : Engine} (findsLeast : engine.FindsLeast)
    {unknowns : List (Tensor Lit)} {solver : Solver} {round : Nat} {model : Assignment}
    (represents : problem.Represents unknowns found solver)
    (isModel : solver.backend.formula.eval model = true)
    (decided : engine.decide round solver.backend.numVars solver.backend.formula =
      .satisfiable model) : problem.PicksLeast found (readUnder model unknowns) := by
  intro other isOpen less
  obtain ⟨rival, isRival, rfl⟩ := represents.complete other isOpen
  unfold Precedes at less
  rw [represents.cells_readUnder_eq, represents.cells_readUnder_eq] at less
  obtain ⟨number, atLeast, below, agree, isFalse, isTrue⟩ := exists_of_lexLess less
  have wellFormed := represents.wellFormed
  -- No literal is of the variable zero, so that its value may be taken over.
  obtain ⟨other, isZero, isRest⟩ : ∃ other : Assignment, other 0 = model 0 ∧
      ∀ place, place ≠ 0 → other place = rival place :=
    ⟨fun place => if place = 0 then model 0 else rival place, if_pos rfl,
      fun _ nonzero => if_neg nonzero⟩
  have holds : solver.backend.formula.eval other = true := by
    rw [← isRival]
    exact Formula.eval_congr wellFormed.isOver fun place positive _ =>
      isRest place (Nat.pos_iff_ne_zero.1 positive)
  have sameBefore : ∀ smaller < number, other smaller = model smaller := by
    intro smaller isSmaller
    rcases Nat.lt_trichotomy smaller 1 with isLess | rfl | isGreater
    · obtain rfl : smaller = 0 := by omega
      exact isZero
    · rw [isRest 1 Nat.one_ne_zero]
      exact (wellFormed.top_holds isRival).trans (wellFormed.top_holds isModel).symm
    · rw [isRest smaller (by omega)]
      exact agree smaller isGreater isSmaller
  have within := represents.within
  have isLeast := findsLeast wellFormed.isOver decided other holds number (by omega) sameBefore
    ((isRest number (by omega)).trans isFalse)
  rw [isTrue] at isLeast
  cases isLeast

namespace Enumerated

variable [Platform] {all : List Solution}

/-- What is still open comes after all that was found. -/
theorem precedes_open (enumerated : problem.Enumerated problem.PicksLeast found)
    (isOpen : problem.Open found solution) : ∀ other ∈ found, Precedes other solution := by
  induction enumerated with
  | nil => exact fun _ impossible => nomatch impossible
  | @cons found last before lastOpen least hypothesis =>
      obtain ⟨isOpenBefore, differs⟩ := open_cons.1 isOpen
      refine List.forall_mem_cons.2 ⟨?_, hypothesis isOpenBefore⟩
      rcases precedes_total lastOpen.1.1 isOpen.1.1 with rfl | precedes | follows
      · exact absurd rfl differs
      · exact precedes
      · exact absurd follows (least solution isOpenBefore)

/-- Solutions are found in increasing order. -/
theorem pairwise_precedes (enumerated : problem.Enumerated problem.PicksLeast all) :
    all.reverse.Pairwise Precedes := by
  rw [List.pairwise_reverse]
  induction enumerated with
  | nil => exact .nil
  | cons before isOpen _ hypothesis => exact .cons (before.precedes_open isOpen) hypothesis

/-- Each solution that is found is the first one with its selected cells. -/
theorem isLeastOfRow (enumerated : problem.Enumerated problem.PicksLeast all) :
    ∀ solution ∈ all, problem.IsLeastOfRow solution := by
  induction enumerated with
  | nil => exact fun _ impossible => nomatch impossible
  | @cons found last before lastOpen least hypothesis =>
      refine List.forall_mem_cons.2 ⟨⟨lastOpen.1, fun other solves sameRow => ?_⟩, hypothesis⟩
      have otherOpen : problem.Open found other :=
        ⟨solves, fun earlier isFound same => lastOpen.2 earlier isFound (same.trans sameRow)⟩
      rcases precedes_total solves.1 lastOpen.1.1 with same | precedes | follows
      · exact Or.inl same
      · exact absurd precedes (least other otherOpen)
      · exact Or.inr follows

/-- If no solution is left, the first ones with their selected cells have all been found. -/
theorem mem_of_isLeastOfRow (enumerated : problem.Enumerated problem.PicksLeast all)
    (closed : ∀ solution, ¬problem.Open all solution) (isLeast : problem.IsLeastOfRow solution) :
    solution ∈ all := by
  by_contra absent
  apply closed solution
  refine ⟨isLeast.1, fun other isFound sameRow => ?_⟩
  have otherLeast := enumerated.isLeastOfRow other isFound
  rcases isLeast.2 other otherLeast.1 sameRow with rfl | before
  · exact absent isFound
  · rcases otherLeast.2 solution isLeast.1 sameRow.symm with rfl | after
    · exact absent isFound
    · have neither := lexLess_asymm before
      unfold Precedes at after
      rw [after] at neither
      cases neither

/-- There is only one way to pick the first solution that is open, so many times. -/
theorem eq_of_length_eq {other : List Solution}
    (first : problem.Enumerated problem.PicksLeast all)
    (second : problem.Enumerated problem.PicksLeast other) (sameLength : all.length = other.length) :
    all = other := by
  induction first generalizing other with
  | nil => exact (List.eq_nil_of_length_eq_zero sameLength.symm).symm
  | @cons found last before lastOpen least hypothesis =>
      cases second with
      | nil => cases sameLength
      | @cons otherFound otherLast otherBefore otherOpen otherLeast =>
          obtain rfl := hypothesis otherBefore (Nat.succ.inj sameLength)
          rcases precedes_total lastOpen.1.1 otherOpen.1.1 with rfl | precedes | follows
          · rfl
          · exact absurd precedes (otherLeast last lastOpen)
          · exact absurd follows (least otherLast otherOpen)

/-- A shorter enumeration is the beginning of a longer one. -/
theorem reverse_eq_take {other : List Solution}
    (first : problem.Enumerated problem.PicksLeast all)
    (second : problem.Enumerated problem.PicksLeast other) (shorter : all.length ≤ other.length) :
    all.reverse = other.reverse.take all.length := by
  induction second with
  | nil =>
      obtain rfl := List.eq_nil_of_length_eq_zero (Nat.le_zero.1 shorter)
      rfl
  | @cons found last before lastOpen least hypothesis =>
      rcases Nat.eq_or_lt_of_le shorter with same | less
      · have sameSolutions := first.eq_of_length_eq (.cons before lastOpen least) same
        rw [sameSolutions, ← List.length_reverse, List.take_length]
      · have isShorter : all.length ≤ found.length := Nat.lt_succ_iff.1 less
        rw [hypothesis isShorter, List.reverse_cons,
          List.take_append_of_le_length (by rwa [List.length_reverse])]

section

variable {full : List Solution} (complete : problem.Enumerated problem.PicksLeast full)
  (closed : ∀ solution, ¬problem.Open full solution)

include complete closed

/-- An enumeration finds the beginning of the complete one that its limit says. -/
theorem reverse_of_ends {limit : Int} {searches : Nat}
    (enumerated : problem.Enumerated problem.PicksLeast all)
    (ends : problem.Ends limit all searches) :
    all.reverse = if limit ≤ 0 then full.reverse else full.reverse.take limit.toNat := by
  have counted := complete.length_eq_ncard closed
  have bounded := enumerated.length_le_ncard
  rw [enumerated.reverse_eq_take complete (by omega)]
  cases ends with
  | stopped positive reached =>
      have isLength : all.length = limit.toNat := by omega
      rw [if_neg (Int.not_le.2 positive), isLength]
  | exhausted below exhausted =>
      have isLength := enumerated.length_eq_ncard exhausted
      have whole : full.reverse.take all.length = full.reverse :=
        List.take_of_length_le (by rw [List.length_reverse]; omega)
      rw [whole]
      split
      · rfl
      · exact (List.take_of_length_le (by rw [List.length_reverse]; omega)).symm

/-- One search finds the first solution of the complete enumeration. -/
theorem head?_eq {answer : Option Solution}
    (enumerated : problem.Enumerated problem.PicksLeast answer.toList)
    (unsolvable : answer = none → ∀ solution, ¬problem.Open [] solution) :
    full.reverse.head? = answer := by
  have counted := complete.length_eq_ncard closed
  cases answer with
  | none =>
      have none := enumerated.length_eq_ncard (unsolvable rfl)
      obtain rfl : full = [] := List.eq_nil_of_length_eq_zero (counted.trans none.symm)
      rfl
  | some solution =>
      have bounded := enumerated.length_le_ncard
      have first := congrArg List.head? (enumerated.reverse_eq_take complete (by omega))
      rw [List.head?_take] at first
      exact first.symm

end

end Enumerated

/-- An engine that finds least models picks the first solution that is open. -/
theorem pickedBy_of_findsLeast [Platform] {engine : Engine} (decides : engine.Decides)
    (findsLeast : engine.FindsLeast) : problem.PickedBy engine problem.PicksLeast :=
  fun represents decided => picksLeast_readUnder findsLeast represents
    (decides.satisfiable represents.wellFormed.isOver decided) decided

/-- An engine that finds least models enumerates all solutions that come first. -/
theorem exists_complete [Platform] (wellPosed : problem.WellPosed) (listable : problem.Listable) :
    ∃ full, problem.Enumerated problem.PicksLeast full ∧ ∀ solution, ¬problem.Open full solution := by
  obtain ⟨_, full, _, _, _, _, complete, ends, _⟩ :=
    @runOn_solveAll problem (Solver.create 0 { engine := .least }) _ problem.PicksLeast 0 wellPosed
      listable Engine.decides_least (pickedBy_of_findsLeast Engine.decides_least Engine.findsLeast_least)
  refine ⟨full, complete, ?_⟩
  cases ends with
  | stopped positive => exact absurd positive (Int.lt_irrefl 0)
  | exhausted _ closed => exact closed

/-- Least models come in order.  The solutions that are the first ones with their selected cells make
up an increasing list, in which each row of selected cells of a solution occurs.  With any engine that
is sound and complete and finds least models, over a solver in any state, `solveAll` gives this list,
or as much of it as the limit says, and `solveOne` its first member.  Only coordinates that cannot be
listed keep both from a result. -/
theorem solveAll_least_first [Platform] (wellPosed : problem.WellPosed) :
    (problem.Listable →
      ∃ listed : List Solution, listed.Pairwise Precedes ∧
        (∀ solution, solution ∈ listed ↔ problem.IsLeastOfRow solution) ∧
        (∀ solution, problem.Solves solution →
          ∃ first ∈ listed, problem.projection first = problem.projection solution) ∧
        ∀ solver : Solver, solver.backend.engine.Decides → solver.backend.engine.FindsLeast →
          (∀ limit : Int, ∃ result after, (problem.solveAll limit).runOn solver = (.ok result, after) ∧
            problem.Unstacks result (if limit ≤ 0 then listed else listed.take limit.toNat)) ∧
          ∃ after, problem.solveOne.runOn solver = (.ok listed.head?, after)) ∧
    (¬problem.Listable → ∀ solver, ∃ fault, (fault.category = .overflow ∨ fault.category = .memory) ∧
      problem.FailsOn solver fault) := by
  refine ⟨fun listable => ?_, exists_failsOn⟩
  -- The list is what one such engine finds without a limit; others find the same.
  obtain ⟨full, complete, closed⟩ := exists_complete wellPosed listable
  refine ⟨full.reverse, complete.pairwise_precedes, fun solution => ?_, fun solution solves => ?_,
    fun solver decides findsLeast => ⟨fun limit => ?_, ?_⟩⟩
  · rw [List.mem_reverse]
    exact ⟨complete.isLeastOfRow solution, complete.mem_of_isLeastOfRow closed⟩
  · by_contra absent
    apply closed solution
    refine ⟨solves, fun other isFound sameRow => absent ?_⟩
    exact ⟨other, List.mem_reverse.2 isFound, sameRow⟩
  · obtain ⟨result, all, after, _, ran, unstacks, enumerated, ends, _⟩ :=
      runOn_solveAll problem.PicksLeast limit wellPosed listable decides
        (pickedBy_of_findsLeast decides findsLeast)
    rw [complete.reverse_of_ends closed enumerated ends] at unstacks
    exact ⟨result, after, ran, unstacks⟩
  · obtain ⟨answer, after, ran, enumerated, unsolvable⟩ :=
      runOn_solveOne problem.PicksLeast wellPosed listable decides
        (pickedBy_of_findsLeast decides findsLeast)
    rw [complete.head?_eq closed enumerated unsolvable]
    exact ⟨after, ran⟩

attribute [local instance] Platform.usual in
/-- Of the two truth values, of which nothing is asked, false comes first. -/
theorem solveAll_least_first_truth :
    let problem : Problem := { masks := [.scalar (.bool true)], predicate := .top }
    let solver := Solver.create 0 { engine := .least }
    problem.WellPosed ∧ problem.Listable ∧ solver.backend.engine.Decides ∧
      solver.backend.engine.FindsLeast ∧
      (∃ result after, (problem.solveAll 1).runOn solver = (.ok result, after) ∧
        problem.Unstacks result [[.scalar false]]) ∧
      ∃ after, problem.solveOne.runOn solver = (.ok (some [.scalar false]), after) := by
  intro problem solver
  have decides : solver.backend.engine.Decides := Engine.decides_least
  have findsLeast : solver.backend.engine.FindsLeast := Engine.findsLeast_least
  have solves : ∀ value, problem.Solves [.scalar value] := fun value => ⟨rfl, by cases value <;> rfl⟩
  have wellPosed : problem.WellPosed := by
    refine ⟨.top, fun solution fits => ?_⟩
    obtain ⟨value, rfl⟩ := fits.eq_scalar rfl
    exact ⟨true, (solves value).2⟩
  have listable : problem.Listable := by
    unfold Listable
    decide
  obtain ⟨listed, increasing, members, _, listedBy⟩ := (solveAll_least_first wellPosed).1 listable
  have isListed : [.scalar false] ∈ listed := by
    refine (members _).2 ⟨solves false, fun other isOther sameRow => Or.inl ?_⟩
    obtain ⟨value, rfl⟩ := isOther.1.eq_scalar rfl
    cases value with
    | false => rfl
    | true => cases sameRow
  obtain ⟨rest, rfl⟩ : ∃ rest, listed = [.scalar false] :: rest := by
    cases listed with
    | nil => cases isListed
    | cons first rest =>
        have isLeast := (members first).1 List.mem_cons_self
        obtain ⟨value, rfl⟩ := isLeast.1.1.eq_scalar rfl
        cases value with
        | false => exact ⟨rest, rfl⟩
        | true =>
            rcases List.mem_cons.1 isListed with same | inside
            · cases same
            · cases List.rel_of_pairwise_cons increasing inside
  obtain ⟨all, one⟩ := listedBy solver decides findsLeast
  exact ⟨wellPosed, listable, decides, findsLeast, all 1, one⟩

attribute [local instance] Platform.usual in
/-- There are solutions, and no first one is found. -/
theorem solveOne_boundless :
    let solver := Solver.create 0 { engine := .least }
    boundless.WellPosed ∧ solver.backend.engine.Decides ∧ solver.backend.engine.FindsLeast ∧
      (∃ solution, boundless.Solves solution) ∧
      (boundless.solveOne.runOn solver).1 = .error .hugeAxis :=
  ⟨boundless_wellPosed, Engine.decides_least, Engine.findsLeast_least, exists_boundless_solves,
    (boundless_failsOn _).solveOne_eq⟩

end Problem

end TensorLogic
