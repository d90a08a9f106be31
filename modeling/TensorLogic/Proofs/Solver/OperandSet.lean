/-
Module: TensorLogic.Proofs.Solver.OperandSet
Purpose: A gate with any number of operands depends on the set of its operands only.
Main exports: Solver.operandSet, Solver.Decided, Solver.collectLits_spec, Solver.SetGate, Solver.SameGate,
  Solver.Reachable.quantifiers_depend_on_set
-/
import Mathlib.Data.Finset.Card
import TensorLogic.Proofs.Solver.Gates
import TensorLogic.Proofs.Solver.Reachable

namespace TensorLogic.Solver

/-!
A gate passes over its operands once, drops what it has seen before, and stops as soon as they decide its
result.  Where it stops, and in what order it finds the operands that are left, depends on the sequence; that
it finds an absorbing constant or two opposite literals, how many operands are left, and what the clauses
over these say does not.
-/

/-- The operands of a gate as a set, without the constant that does not matter to it. -/
def operandSet (neutral : Lit) (literals : List Lit) : Finset Lit := literals.toFinset.erase neutral

/-- Some operands decide the result of a gate: the other constant is among them, or a literal and its
negation. -/
def Decided (absorbing : Lit) (members : Finset Lit) : Prop :=
  absorbing ∈ members ∨ ∃ literal ∈ members, literal.neg ∈ members

/-! ## What is collected -/

section

variable {neutral absorbing first : Lit} {found literals : List Lit}

theorem mem_operandSet {literal : Lit} :
    literal ∈ operandSet neutral literals ↔ literal ≠ neutral ∧ literal ∈ literals := by
  rw [operandSet, Finset.mem_erase, List.mem_toFinset]

/-- The operands found so far together with those that are left, after one that is passed over. -/
theorem union_operandSet_of_skipped (skipped : first = neutral ∨ first ∈ found) :
    found.toFinset ∪ operandSet neutral (first :: literals) =
      found.toFinset ∪ operandSet neutral literals := by
  ext literal
  simp only [Finset.mem_union, List.mem_toFinset, mem_operandSet, List.mem_cons]
  rcases skipped with rfl | inside
  · tauto
  · constructor
    · rintro (earlier | ⟨notNeutral, rfl | later⟩)
      · exact Or.inl earlier
      · exact Or.inl inside
      · exact Or.inr ⟨notNeutral, later⟩
    · tauto

/-- The same after one that is added to those found. -/
theorem union_operandSet_of_added (notNeutral : first ≠ neutral) :
    found.toFinset ∪ operandSet neutral (first :: literals) =
      (found ++ [first]).toFinset ∪ operandSet neutral literals := by
  ext literal
  simp only [Finset.mem_union, List.mem_toFinset, mem_operandSet, List.mem_cons, List.mem_append,
    List.not_mem_nil, or_false]
  constructor
  · tauto
  · rintro ((earlier | rfl) | later)
    · exact Or.inl earlier
    · exact Or.inr ⟨notNeutral, Or.inl rfl⟩
    · exact Or.inr ⟨later.1, Or.inr later.2⟩

/-- One more operand decides nothing if it is not the deciding constant and its negation was not found. -/
theorem undecided_added (undecided : ¬Decided absorbing found.toFinset)
    (passed : ¬(first = absorbing ∨ first.neg ∈ found)) (proper : first.neg ≠ first) :
    ¬Decided absorbing (found ++ [first]).toFinset := by
  obtain ⟨notAbsorbing, notOpposite⟩ := not_or.1 passed
  simp only [Decided, List.mem_toFinset, not_or, not_exists, not_and] at undecided ⊢
  simp only [List.mem_append, List.mem_singleton, not_or]
  refine ⟨⟨undecided.1, Ne.symm notAbsorbing⟩, ?_⟩
  rintro literal (inside | rfl)
  · refine ⟨undecided.2 literal inside, ?_⟩
    rintro rfl
    rw [Lit.neg_neg] at notOpposite
    exact notOpposite inside
  · exact ⟨notOpposite, proper⟩

/-- What is left of some operands that decide nothing: each of them once. -/
structure Collected (absorbing : Lit) (distinct : List Lit) (members : Finset Lit) : Prop where
  nodup : distinct.Nodup
  toFinset_eq : distinct.toFinset = members
  undecided : ¬Decided absorbing members

/-- Whatever the order in which the operands come, nothing is left of them exactly if they decide the result,
and otherwise each of them is left once. -/
theorem collectLits_spec (opposite : neutral.neg = absorbing)
    (proper : ∀ literal ∈ literals, literal.neg ≠ literal) (nodup : found.Nodup)
    (noNeutral : neutral ∉ found) (undecided : ¬Decided absorbing found.toFinset) :
    match collectLits neutral absorbing found literals with
    | none => Decided absorbing (found.toFinset ∪ operandSet neutral literals)
    | some distinct => Collected absorbing distinct (found.toFinset ∪ operandSet neutral literals) := by
  induction literals generalizing found with
  | nil =>
      refine ⟨nodup, ?_, ?_⟩
      · simp [operandSet]
      · simpa [operandSet] using undecided
  | cons first literals hypothesis =>
      have properFirst := proper first List.mem_cons_self
      have properRest : ∀ literal ∈ literals, literal.neg ≠ literal :=
        fun literal member => proper literal (List.mem_cons_of_mem _ member)
      rw [collectLits]
      by_cases stops : first = absorbing ∨ first.neg ∈ found
      · rw [if_pos stops]
        have notNeutral : first ≠ neutral := by
          rintro rfl
          rcases stops with isAbsorbing | inside
          · exact properFirst (opposite.trans isAbsorbing.symm)
          · exact undecided (Or.inl (List.mem_toFinset.2 (opposite ▸ inside)))
        have isMember : first ∈ found.toFinset ∪ operandSet neutral (first :: literals) :=
          Finset.mem_union_right _ (mem_operandSet.2 ⟨notNeutral, List.mem_cons_self⟩)
        rcases stops with rfl | inside
        · exact Or.inl isMember
        · exact Or.inr ⟨first, isMember, Finset.mem_union_left _ (List.mem_toFinset.2 inside)⟩
      · rw [if_neg stops]
        by_cases skipped : first = neutral ∨ first ∈ found
        · rw [if_pos skipped, union_operandSet_of_skipped skipped]
          exact hypothesis properRest nodup noNeutral undecided
        · obtain ⟨notNeutral, isNew⟩ := not_or.1 skipped
          rw [if_neg skipped, union_operandSet_of_added notNeutral]
          refine hypothesis properRest ?_ ?_ (undecided_added undecided stops properFirst)
          · exact nodup.append (List.nodup_singleton first)
              (List.disjoint_singleton.2 isNew)
          · simpa [noNeutral] using Ne.symm notNeutral

/-- What one pass over the operands collects depends on the set of them: it stops where this set decides,
and collects all of it otherwise. -/
theorem distinctLits?_spec (opposite : neutral.neg = absorbing)
    (proper : ∀ literal ∈ literals, literal.neg ≠ literal) :
    match distinctLits? neutral absorbing literals with
    | none => Decided absorbing (operandSet neutral literals)
    | some distinct => Collected absorbing distinct (operandSet neutral literals) := by
  have undecided : ¬Decided absorbing [].toFinset := by simp [Decided]
  have collected := collectLits_spec opposite proper List.nodup_nil List.not_mem_nil undecided
  rw [List.toFinset_nil, Finset.empty_union] at collected
  rw [distinctLits?_eq]
  exact collected

end

/-! ## How many clauses a gate adds -/

variable {solver : Solver}

/-- A clause is only left out if the true constant is in it. -/
theorem numClauses_asserted {literals : List Lit} (noTop : ∀ literal ∈ literals, literal.code ≠ 1) :
    (solver.asserted literals).backend.numClauses = solver.backend.numClauses + 1 := by
  have absent : ¬(literals.map Lit.code).contains 1 = true := by
    simpa using noTop
  obtain ⟨clause, simplified⟩ : ∃ clause, simplify? (literals.map Lit.code) = some clause := by
    unfold simplify?
    rw [if_neg absent]
    split <;> exact ⟨_, rfl⟩
  unfold asserted
  rw [simplified]
  exact Array.size_push _

theorem numClauses_assertedAll {clauses : List (List Lit)}
    (noTop : ∀ clause ∈ clauses, ∀ literal ∈ clause, literal.code ≠ 1) :
    (solver.assertedAll clauses).backend.numClauses = solver.backend.numClauses + clauses.length := by
  induction clauses generalizing solver with
  | nil => rfl
  | cons clause clauses hypothesis =>
      refine (hypothesis fun other inside => noTop other (List.mem_cons_of_mem _ inside)).trans ?_
      rw [numClauses_asserted (noTop clause List.mem_cons_self), List.length_cons, Nat.add_assoc,
        Nat.add_comm 1]

/-- A literal that can be used and is none of the constants has a variable of its own. -/
theorem Live.two_le_natAbs {literal : Lit} (live : solver.Live literal) {constant : Bool}
    (differs : literal ≠ lift solver.owner constant)
    (differsOther : literal ≠ lift solver.owner !constant) : 2 ≤ literal.code.natAbs := by
  rcases live with ⟨inScope, isOne | isMinusOne⟩ | ⟨_, atLeast, _⟩
  · have isTop : literal = top solver.owner := by
      cases literal
      cases inScope
      cases isOne
      rfl
    cases constant with
    | false => exact absurd isTop differsOther
    | true => exact absurd isTop differs
  · have isBot : literal = bot solver.owner := by
      cases literal
      cases inScope
      cases isMinusOne
      rfl
    cases constant with
    | false => exact absurd isBot differs
    | true => exact absurd isBot differsOther
  · exact atLeast

/-- No live literal is its own negation. -/
theorem Live.neg_ne {literal : Lit} (wellFormed : solver.WellFormed) (live : solver.Live literal) :
    literal.neg ≠ literal := by
  intro same
  have nonzero := (wellFormed.isLiteral live).1
  have sameCode : -literal.code = literal.code := congrArg Lit.code same
  omega

/-! ## The gates -/

/-- What a gate comes to in a state of a solver, for a set of operands other than the constant that does not
matter to it: the constant that decides it, the other constant, the only operand, or else a new literal that
is equivalent to the operation in every model. -/
structure SetGate (solver : Solver) (ran : Except Fault Lit × Solver) (neutral absorbing : Lit)
    (members : Finset Lit) (meaning : Assignment → Prop) : Prop where
  decided : Decided absorbing members → ran = (.ok absorbing, solver)
  empty : members = ∅ → ran = (.ok neutral, solver)
  single : ∀ literal, members = {literal} → ran = (.ok literal, solver)
  output : ¬Decided absorbing members → 2 ≤ members.card →
    ran.1 = .ok solver.nextLiteral ∧
      ran.2.backend.numVars = solver.backend.numVars + 1 ∧
      ran.2.backend.numClauses = solver.backend.numClauses + (members.card + 1) ∧
      ∀ assignment, ran.2.backend.formula.eval assignment = true ↔
        solver.backend.formula.eval assignment = true ∧
          (assignment.value solver.nextLiteral = true ↔ meaning assignment)

/-- Two runs of a gate have the same result, and leave formulas with as many variables, as many clauses and
the same models. -/
structure SameGate (ran other : Except Fault Lit × Solver) : Prop where
  result : ran.1 = other.1
  numVars : ran.2.backend.numVars = other.2.backend.numVars
  numClauses : ran.2.backend.numClauses = other.2.backend.numClauses
  models : ∀ assignment,
    ran.2.backend.formula.eval assignment = other.2.backend.formula.eval assignment

theorem SameGate.of_eq {ran other : Except Fault Lit × Solver} (same : ran = other) :
    SameGate ran other := by
  subst same
  exact ⟨rfl, rfl, rfl, fun _ => rfl⟩

section

variable {neutral absorbing : Lit} {members : Finset Lit} {meaning : Assignment → Prop}

theorem undecided_empty : ¬Decided absorbing ∅ := by
  simp [Decided]

/-- Where the set of operands decides, the gate is the absorbing literal. -/
theorem SetGate.of_decided (decided : Decided absorbing members)
    (proper : ∀ literal ∈ members, literal.neg ≠ literal) :
    SetGate solver (.ok absorbing, solver) neutral absorbing members meaning where
  decided := fun _ => rfl
  empty := by
    rintro rfl
    exact absurd decided undecided_empty
  single := by
    rintro literal rfl
    rcases decided with isAbsorbing | ⟨other, isOther, isOpposite⟩
    · rw [Finset.mem_singleton.1 isAbsorbing]
    · have same : other.neg = other :=
        (Finset.mem_singleton.1 isOpposite).trans (Finset.mem_singleton.1 isOther).symm
      exact absurd same (proper other isOther)
  output := fun undecided => absurd decided undecided

theorem SetGate.of_empty : SetGate solver (.ok neutral, solver) neutral absorbing ∅ meaning where
  decided := fun decided => absurd decided undecided_empty
  empty := fun _ => rfl
  single := fun literal same => absurd same.symm (Finset.singleton_ne_empty literal)
  output := fun _ many => by simp at many

theorem SetGate.of_single {literal : Lit} (undecided : ¬Decided absorbing {literal}) :
    SetGate solver (.ok literal, solver) neutral absorbing {literal} meaning where
  decided := fun decided => absurd decided undecided
  empty := fun same => absurd same (Finset.singleton_ne_empty literal)
  single := fun other same => by rw [Finset.singleton_injective same]
  output := fun _ many => by simp at many

/-- From two operands on, the gate is a new variable with one clause more than there are operands. -/
theorem SetGate.of_many {ran : Except Fault Lit × Solver} (undecided : ¬Decided absorbing members)
    (many : 2 ≤ members.card)
    (output : ran.1 = .ok solver.nextLiteral ∧
      ran.2.backend.numVars = solver.backend.numVars + 1 ∧
      ran.2.backend.numClauses = solver.backend.numClauses + (members.card + 1) ∧
      ∀ assignment, ran.2.backend.formula.eval assignment = true ↔
        solver.backend.formula.eval assignment = true ∧
          (assignment.value solver.nextLiteral = true ↔ meaning assignment)) :
    SetGate solver ran neutral absorbing members meaning where
  decided := fun decided => absurd decided undecided
  empty := by
    rintro rfl
    simp at many
  single := by
    rintro literal rfl
    simp at many
  output := fun _ _ => output

/-- One set of operands leaves no choice. -/
theorem SetGate.same {ran other : Except Fault Lit × Solver}
    (gate : SetGate solver ran neutral absorbing members meaning)
    (otherGate : SetGate solver other neutral absorbing members meaning) : SameGate ran other := by
  by_cases decided : Decided absorbing members
  · exact .of_eq ((gate.decided decided).trans (otherGate.decided decided).symm)
  · rcases Nat.lt_or_ge members.card 2 with few | many
    · rcases Nat.le_one_iff_eq_zero_or_eq_one.1 (Nat.le_of_lt_succ few) with none | one
      · have empty := Finset.card_eq_zero.1 none
        exact .of_eq ((gate.empty empty).trans (otherGate.empty empty).symm)
      · obtain ⟨literal, single⟩ := Finset.card_eq_one.1 one
        exact .of_eq ((gate.single literal single).trans (otherGate.single literal single).symm)
    · obtain ⟨result, numVars, numClauses, models⟩ := gate.output decided many
      obtain ⟨otherResult, otherVars, otherClauses, otherModels⟩ := otherGate.output decided many
      refine ⟨result.trans otherResult.symm, numVars.trans otherVars.symm,
        numClauses.trans otherClauses.symm, fun assignment => ?_⟩
      rw [Bool.eq_iff_iff, models, otherModels]

end

section

variable {absorbed : Bool} {clauses : List Lit → Lit → List (List Lit)}
  {meaning : Finset Lit → Assignment → Prop}
  (means : ∀ (distinct : List Lit) (assignment : Assignment),
    quantified absorbed (distinct.map assignment.value) = true ↔
      meaning distinct.toFinset assignment)
  (defines : ∀ solver literals, WellFormed solver → (∀ literal ∈ literals, Live solver literal) →
    solver.Defines (clauses literals) fun assignment =>
      quantified absorbed (literals.map assignment.value))
  (counted : ∀ literals output, (clauses literals output).length = literals.length + 1)
  (made : ∀ literals output, ∀ clause ∈ clauses literals output, ∀ literal ∈ clause,
    literal ∈ literals ∨ literal ∈ literals.map Lit.neg ∨ literal ∈ [output, output.neg])

include counted made in
/-- The clauses of a gate over literals with variables of their own are all kept. -/
theorem numClauses_output (wellFormed : solver.WellFormed) {distinct : List Lit}
    (ownVariable : ∀ literal ∈ distinct, 2 ≤ literal.code.natAbs) :
    (solver.extended.assertedAll (clauses distinct solver.nextLiteral)).backend.numClauses =
      solver.backend.numClauses + (distinct.length + 1) := by
  have positive := wellFormed.numVars_pos
  have ownOutput : 2 ≤ solver.nextLiteral.code.natAbs := by
    change 2 ≤ ((solver.backend.numVars + 1 : Nat) : Int).natAbs
    omega
  rw [numClauses_assertedAll, counted]
  · rfl
  · intro clause inside literal member
    have own : 2 ≤ literal.code.natAbs := by
      rcases made distinct _ clause inside literal member with given | opposite | isOutput
      · exact ownVariable literal given
      · obtain ⟨original, given, rfl⟩ := List.mem_map.1 opposite
        simpa [Lit.neg] using ownVariable original given
      · simp only [List.mem_cons, List.not_mem_nil, or_false] at isOutput
        rcases isOutput with rfl | rfl
        · exact ownOutput
        · simpa [Lit.neg] using ownOutput
    omega

include means defines counted made in
/-- Several operands of which none decides the result define a new literal. -/
theorem output_quantifier (wellFormed : solver.WellFormed) {distinct : List Lit} {members : Finset Lit}
    (live : ∀ literal ∈ distinct, solver.Live literal)
    (ownVariable : ∀ literal ∈ distinct, 2 ≤ literal.code.natAbs) (nodup : distinct.Nodup)
    (isSet : distinct.toFinset = members) :
    let ran := (define (clauses distinct)).runOn solver
    ran.1 = .ok solver.nextLiteral ∧
      ran.2.backend.numVars = solver.backend.numVars + 1 ∧
      ran.2.backend.numClauses = solver.backend.numClauses + (members.card + 1) ∧
      ∀ assignment, ran.2.backend.formula.eval assignment = true ↔
        solver.backend.formula.eval assignment = true ∧
          (assignment.value solver.nextLiteral = true ↔ meaning members assignment) := by
  have defined := defines solver distinct wellFormed live
  have sameNumber : members.card = distinct.length := by
    rw [← isSet, List.toFinset_card_of_nodup nodup]
  rw [defined.runOn_define wellFormed, sameNumber]
  refine ⟨rfl, numVars_assertedAll _ _, numClauses_output counted made wellFormed ownVariable,
    fun assignment => ?_⟩
  rw [eval_assertedAll wellFormed.extended defined.live, formula_extended, defined.all_eq,
    Bool.and_eq_true, beq_iff_eq, ← isSet, ← means,
    Bool.eq_iff_iff (a := assignment.value solver.nextLiteral)]

include means defines counted made in
/-- A gate with any number of operands depends on the set of its operands. -/
theorem setGate_quantifier (wellFormed : solver.WellFormed) {literals : List Lit}
    (live : ∀ literal ∈ literals, solver.Live literal) :
    SetGate solver
      ((do
        checkAll literals
        quantifier (fun owner => lift owner !absorbed) (fun owner => lift owner absorbed) clauses literals
          (← get) : Act Solver Lit).runOn solver)
      (lift solver.owner !absorbed) (lift solver.owner absorbed)
      (operandSet (lift solver.owner !absorbed) literals)
      (meaning (operandSet (lift solver.owner !absorbed) literals)) := by
  have checked : (checkAll literals).runOn solver = (.ok (), solver) :=
    runOn_checks fun literal member => (live literal member).owns
  have opposite : (lift solver.owner !absorbed).neg = lift solver.owner absorbed := by
    cases absorbed <;> rfl
  have proper : ∀ literal ∈ literals, literal.neg ≠ literal :=
    fun literal member => (live literal member).neg_ne wellFormed
  have spec := distinctLits?_spec opposite proper
  rw [Act.runOn_bind_ok checked, Act.runOn_bind_ok (Act.runOn_get solver)]
  unfold quantifier
  cases collected : distinctLits? (lift solver.owner !absorbed) (lift solver.owner absorbed)
    literals with
  | none =>
      rw [collected] at spec
      exact .of_decided spec fun literal member => proper literal (mem_operandSet.1 member).2
  | some distinct =>
      rw [collected] at spec
      obtain ⟨nodup, isSet, undecided⟩ := spec
      have given : ∀ literal ∈ distinct,
          literal ≠ lift solver.owner !absorbed ∧ literal ∈ literals := by
        intro literal member
        rw [← mem_operandSet, ← isSet, List.mem_toFinset]
        exact member
      rw [← isSet] at undecided ⊢
      match distinct with
      | [] => exact .of_empty
      | [literal] => exact .of_single undecided
      | first :: second :: rest =>
          have liveDistinct : ∀ literal ∈ first :: second :: rest, solver.Live literal :=
            fun literal member => live literal (given literal member).2
          refine .of_many undecided ?_ (output_quantifier means defines counted made wellFormed
            liveDistinct (fun literal member => ?_) nodup rfl)
          · rw [List.toFinset_card_of_nodup nodup]
            exact Nat.le_add_left 2 rest.length
          · have differs : literal ≠ lift solver.owner absorbed := by
              rintro rfl
              exact undecided (Or.inl (List.mem_toFinset.2 member))
            exact (liveDistinct literal member).two_le_natAbs differs (given literal member).1

end

/-- All literals of a set are true under an assignment. -/
def AllHold (members : Finset Lit) (assignment : Assignment) : Prop :=
  ∀ literal ∈ members, assignment.value literal = true

/-- Some literal of a set is true under an assignment. -/
def SomeHolds (members : Finset Lit) (assignment : Assignment) : Prop :=
  ∃ literal ∈ members, assignment.value literal = true

/-- The gate for a conjunction of many is one for the set of its operands. -/
theorem setGate_all (wellFormed : solver.WellFormed) {literals : List Lit}
    (live : ∀ literal ∈ literals, solver.Live literal) :
    SetGate solver ((all literals).runOn solver) (top solver.owner) (bot solver.owner)
      (operandSet (top solver.owner) literals)
      (AllHold (operandSet (top solver.owner) literals)) := by
  have means : ∀ (distinct : List Lit) (assignment : Assignment),
      quantified false (distinct.map assignment.value) = true ↔
        AllHold distinct.toFinset assignment := by
    intro distinct assignment
    simp [quantified_false, AllHold]
  exact setGate_quantifier means (fun _ _ wellFormed live => defines_all wellFormed live)
    (by simp [allClauses]) (fun _ _ _ inside _ => mem_allClauses inside) wellFormed live

/-- The gate for a disjunction of many is one for the set of its operands. -/
theorem setGate_any (wellFormed : solver.WellFormed) {literals : List Lit}
    (live : ∀ literal ∈ literals, solver.Live literal) :
    SetGate solver ((any literals).runOn solver) (bot solver.owner) (top solver.owner)
      (operandSet (bot solver.owner) literals)
      (SomeHolds (operandSet (bot solver.owner) literals)) := by
  have means : ∀ (distinct : List Lit) (assignment : Assignment),
      quantified true (distinct.map assignment.value) = true ↔
        SomeHolds distinct.toFinset assignment := by
    intro distinct assignment
    simp [quantified_true, SomeHolds]
  exact setGate_quantifier means (fun _ _ wellFormed live => defines_any wellFormed live)
    (by simp [anyClauses]) (fun _ _ _ inside _ => mem_anyClauses inside) wellFormed live

/-- In every state that a solver can be in, the gates with any number of operands depend on the set of their
operands.  A constant that decides the result is returned, and so is the other constant where no operand is
left and the operand where only one is; nothing is allocated then.  Otherwise one variable is allocated and one
clause more than there are operands left, which make the variable equivalent to the operation.  So operands
may change places and be repeated without any effect. -/
theorem Reachable.quantifiers_depend_on_set [Platform] {owner : Nat} {backend : Backend}
    (reachable : Reachable owner backend solver) {literals : List Lit}
    (live : ∀ literal ∈ literals, solver.Live literal) :
    SetGate solver ((all literals).runOn solver) (top solver.owner) (bot solver.owner)
        (operandSet (top solver.owner) literals)
        (AllHold (operandSet (top solver.owner) literals)) ∧
      SetGate solver ((any literals).runOn solver) (bot solver.owner) (top solver.owner)
        (operandSet (bot solver.owner) literals)
        (SomeHolds (operandSet (bot solver.owner) literals)) ∧
      ∀ others : List Lit, (∀ literal, literal ∈ others ↔ literal ∈ literals) →
        SameGate ((all others).runOn solver) ((all literals).runOn solver) ∧
          SameGate ((any others).runOn solver) ((any literals).runOn solver) := by
  have wellFormed := reachable.wellFormed
  refine ⟨setGate_all wellFormed live, setGate_any wellFormed live, fun others same => ?_⟩
  have liveOthers : ∀ literal ∈ others, solver.Live literal :=
    fun literal member => live literal ((same literal).1 member)
  have sameSet : ∀ neutral, operandSet neutral others = operandSet neutral literals := by
    intro neutral
    ext literal
    rw [mem_operandSet, mem_operandSet, same]
  constructor
  · have gate := setGate_all wellFormed liveOthers
    rw [sameSet] at gate
    exact gate.same (setGate_all wellFormed live)
  · have gate := setGate_any wellFormed liveOthers
    rw [sameSet] at gate
    exact gate.same (setGate_any wellFormed live)

attribute [local instance] Platform.usual in
/-- The conjunction of two variables, one of them given twice, and the true constant. -/
theorem quantifiers_depend_on_set_repeated :
    let solver := (newVariable.runOn (newVariable.runOn (create 0 { engine := .least })).2).2
    let x : Lit := ⟨.formula 0 1, 2⟩
    let y : Lit := ⟨.formula 0 1, 3⟩
    Reachable 0 { engine := .least } solver ∧ operandSet (top 0) [x, top 0, y, x] = {x, y} ∧
      ((all [x, top 0, y, x]).runOn solver).1 = .ok ⟨.formula 0 1, 4⟩ ∧
      ((all [x, top 0, y, x]).runOn solver).2.backend.numClauses = solver.backend.numClauses + 3 ∧
      SameGate ((all [top 0, y, x]).runOn solver) ((all [x, top 0, y, x]).runOn solver) := by
  intro solver x y
  have reachable : Reachable 0 { engine := .least } solver :=
    .called .newVariable (.called .newVariable .created)
  have live : ∀ literal ∈ [x, top 0, y, x], solver.Live literal := by
    have liveX : solver.Live x := Or.inr ⟨rfl, by decide, by decide⟩
    have liveY : solver.Live y := Or.inr ⟨rfl, by decide, by decide⟩
    simpa using ⟨liveX, live_top solver, liveY, liveX⟩
  have isSet : operandSet (top 0) [x, top 0, y, x] = {x, y} := by decide
  obtain ⟨gate, _, same⟩ := reachable.quantifiers_depend_on_set live
  change SetGate _ _ _ _ (operandSet (top 0) [x, top 0, y, x]) _ at gate
  rw [isSet] at gate
  have undecided : ¬Decided (bot 0) {x, y} := by
    unfold Decided
    decide
  obtain ⟨result, _, numClauses, _⟩ := gate.output undecided (by decide)
  refine ⟨reachable, isSet, result, numClauses, (same [top 0, y, x] fun literal => ?_).1⟩
  simp only [List.mem_cons, List.not_mem_nil, or_false]
  constructor
  · rintro (isTop | isY | isX)
    · exact Or.inr (Or.inl isTop)
    · exact Or.inr (Or.inr (Or.inl isY))
    · exact Or.inl isX
  · rintro (isX | isTop | isY | isX)
    · exact Or.inr (Or.inr isX)
    · exact Or.inl isTop
    · exact Or.inr (Or.inl isY)
    · exact Or.inr (Or.inr isX)

end TensorLogic.Solver
