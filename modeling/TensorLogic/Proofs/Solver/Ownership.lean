/-
Module: TensorLogic.Proofs.Solver.Ownership
Purpose: Of several solvers side by side, each accepts its constants and the literals that it has
  allocated since it was last cleared, and no others, whatever their codes are.
Main exports: Bench.Turn, Bench.Obtained, Bench.Ran, Bench.Belongs, Bench.Sound, Bench.Ran.sound,
  Bench.Rejects, Bench.Ran.rejects_iff_foreign
-/
import TensorLogic.Proofs.Solver.Request

namespace TensorLogic

/-- The number of the solver that a literal of a scope is of. -/
def Scope.owner : Scope → Nat
  | constants owner | formula owner _ => owner

namespace Solver

variable {solver : Solver} {literal : Lit}

/-! ## Literals of a solver -/

/-- What a solver owns was made by it. -/
theorem Owns.scope_owner (owns : solver.Owns literal) : literal.scope.owner = solver.owner := by
  rcases owns with inScope | inScope <;> rw [inScope] <;> rfl

/-- A literal that a solver has issued is of use, or it is of an earlier formula. -/
def Issued (solver : Solver) (literal : Lit) : Prop :=
  solver.Live literal ∨ ∃ period < solver.period, literal.scope = .formula solver.owner period

namespace Issued

theorem neg (issued : solver.Issued literal) : solver.Issued literal.neg :=
  issued.imp Live.neg id

theorem scope_owner (issued : solver.Issued literal) : literal.scope.owner = solver.owner := by
  rcases issued with live | ⟨period, _, inScope⟩
  · exact live.owns.scope_owner
  · rw [inScope]
    rfl

/-- What a solver has issued is of use to it wherever it is accepted. -/
theorem live_of_owns (issued : solver.Issued literal) (owns : solver.Owns literal) :
    solver.Live literal := by
  rcases issued with live | ⟨period, earlier, inScope⟩
  · exact live
  · rcases owns with owned | owned
    · rw [owned] at inScope
      cases inScope
      exact absurd earlier (Nat.lt_irrefl _)
    · rw [owned] at inScope
      cases inScope

/-- Whatever is asked of a solver, it has issued what it had issued before. -/
theorem asked [Platform] (issued : solver.Issued literal) (request : Request) :
    (request.run.runOn solver).2.Issued literal := by
  cases isClear : request.isClear with
  | false =>
      have upholds := Request.upholds isClear solver
      refine issued.imp (·.of_upholds upholds) fun ⟨period, earlier, inScope⟩ => ⟨period, ?_, ?_⟩
      · rw [upholds.period_eq]
        exact earlier
      · rw [upholds.owner_eq]
        exact inScope
  | true =>
      rw [Request.runOn_of_isClear isClear]
      rcases issued with (constant | ⟨inScope, _⟩) | ⟨period, earlier, inScope⟩
      · exact Or.inl (Or.inl constant)
      · exact Or.inr ⟨solver.period, Nat.lt_succ_self _, inScope⟩
      · exact Or.inr ⟨period, Nat.lt_succ_of_lt earlier, inScope⟩

end Issued

/-- What a solver can use are its constants and the literals of the variables of its formula. -/
theorem live_iff : solver.Live literal ↔ literal = top solver.owner ∨ literal = bot solver.owner ∨
    literal.scope = .formula solver.owner solver.period ∧ 2 ≤ literal.code.natAbs ∧
      literal.code.natAbs ≤ solver.backend.numVars := by
  have isConstant : literal.scope = .constants solver.owner ∧ (literal.code = 1 ∨ literal.code = -1) ↔
      literal = top solver.owner ∨ literal = bot solver.owner := by
    obtain ⟨scope, code⟩ := literal
    simp only [top, bot, Lit.mk.injEq, and_or_left]
  rw [← or_assoc, ← isConstant]
  rfl

/-- Fresh literals and their negations are told by their scope and their code. -/
theorem mem_freshLiterals_iff {count : Nat} :
    literal ∈ solver.freshLiterals count ∨ literal.neg ∈ solver.freshLiterals count ↔
      literal.scope = .formula solver.owner solver.period ∧
        solver.backend.numVars < literal.code.natAbs ∧
        literal.code.natAbs ≤ solver.backend.numVars + count := by
  have isFresh (other : Lit) : other ∈ solver.freshLiterals count ↔
      other.scope = .formula solver.owner solver.period ∧ solver.backend.numVars < other.code ∧
        other.code ≤ solver.backend.numVars + count := by
    unfold freshLiterals
    rw [List.mem_map]
    constructor
    · rintro ⟨number, inside, rfl⟩
      have bounds := List.mem_range'_1.1 inside
      exact ⟨rfl, by dsimp only; omega, by dsimp only; omega⟩
    · rintro ⟨inScope, above, within⟩
      refine ⟨other.code.toNat, List.mem_range'_1.2 ⟨by omega, by omega⟩, ?_⟩
      obtain ⟨scope, code⟩ := other
      cases inScope
      rw [Int.toNat_of_nonneg (by omega)]
  rw [isFresh, isFresh]
  change _ ∨ literal.scope = _ ∧ _ < -literal.code ∧ -literal.code ≤ _ ↔ _
  rw [← and_or_left, and_congr_right_iff]
  intro _
  omega

end Solver

namespace Bench

open Solver (Request Operation)

variable {backends : List Backend} {bench : Bench} {literal : Lit}

/-! ## Runs of several solvers -/

/-- Something that was asked of the solver with a number, and the solver as it was then. -/
structure Turn where
  number : Nat
  request : Request
  before : Solver

namespace Turn

/-- What the request came to. -/
def outcome [Platform] (turn : Turn) : Except Fault (List Lit) × Solver := turn.request.run.runOn turn.before

/-- The literals that were handed back. -/
def obtained [Platform] (turn : Turn) : List Lit := turn.outcome.1.toOption.getD []

/-- The literals of the variables that were allocated. -/
def allocated [Platform] (turn : Turn) : List Lit :=
  turn.before.freshLiterals (turn.outcome.2.backend.numVars - turn.before.backend.numVars)

end Turn

variable {history : List Turn}

/-- A literal that a user of so many solvers has at hand: a constant, what a solver handed back at any
time, or the negation of one at hand. -/
inductive Obtained [Platform] (count : Nat) (history : List Turn) : Lit → Prop where
  | top {number : Nat} (inside : number < count) : Obtained count history (Solver.top number)
  | bot {number : Nat} (inside : number < count) : Obtained count history (Solver.bot number)
  | returned {turn : Turn} {literal : Lit} (inside : turn ∈ history)
      (member : literal ∈ turn.obtained) : Obtained count history literal
  | neg {literal : Lit} (obtained : Obtained count history literal) :
      Obtained count history literal.neg

/-- The solvers on some back-ends after some requests, the last one first.  A request may fail.  Any
literal at hand may be given to any of the solvers. -/
inductive Ran [Platform] (backends : List Backend) : List Turn → Bench → Prop where
  | created : Ran backends [] (create backends)
  | asked {history : List Turn} {bench : Bench} (ran : Ran backends history bench) {number : Int}
      {place : Nat} {inside : place < bench.solvers.size}
      (placed : Position.place bench.solvers.size number .listRange = .ok ⟨place, inside⟩)
      (request : Request)
      (genuine : ∀ literal ∈ request.given, Obtained backends.length history literal) :
      Ran backends (⟨place, request, bench.solvers[place]⟩ :: history)
        ((on number request.run).runOn bench).2

/-- What was asked of a solver since it was last asked to discard its formula. -/
def sinceClear (history : List Turn) (number : Nat) : List Turn :=
  (history.filter fun turn => turn.number == number).takeWhile fun turn => !turn.request.isClear

/-- A solver has allocated a literal, or its negation, since it was last cleared. -/
def Allocated [Platform] (history : List Turn) (number : Nat) (literal : Lit) : Prop :=
  ∃ turn ∈ sinceClear history number, literal ∈ turn.allocated ∨ literal.neg ∈ turn.allocated

/-- A literal is a constant of a solver, or was allocated by it since it was last cleared. -/
def Belongs [Platform] (history : List Turn) (number : Nat) (literal : Lit) : Prop :=
  literal = Solver.top number ∨ literal = Solver.bot number ∨ Allocated history number literal

instance [Platform] (history : List Turn) (number : Nat) (literal : Lit) :
    Decidable (Belongs history number literal) :=
  inferInstanceAs (Decidable (_ ∨ _ ∨ ∃ turn ∈ sinceClear history number, _ ∨ _))

/-- A turn of another solver does not count. -/
theorem sinceClear_elsewhere {turn : Turn} {number : Nat} (elsewhere : turn.number ≠ number) :
    sinceClear (turn :: history) number = sinceClear history number := by
  unfold sinceClear
  rw [List.filter_cons_of_neg (by simpa using elsewhere)]

/-- Clearing a solver makes it forget its turns. -/
theorem sinceClear_clear {turn : Turn} (isClear : turn.request.isClear = true) :
    sinceClear (turn :: history) turn.number = [] := by
  unfold sinceClear
  rw [List.filter_cons_of_pos (by simp), List.takeWhile_cons_of_neg (by simp [isClear])]

/-- Any other turn of a solver is remembered. -/
theorem sinceClear_cons {turn : Turn} (notClear : turn.request.isClear = false) :
    sinceClear (turn :: history) turn.number = turn :: sinceClear history turn.number := by
  unfold sinceClear
  rw [List.filter_cons_of_pos (by simp), List.takeWhile_cons_of_pos (by simp [notClear])]

/-- The solvers after a request to one of them. -/
def updated (bench : Bench) (place : Nat) (after : Solver) : Bench :=
  { bench with
    operations := bench.operations + 1
    solvers := bench.solvers.setIfInBounds place { after with journal := #[] }
    journal := bench.journal ++ after.journal }

/-- An operation of a solver changes this solver only. -/
theorem runOn_on {α : Type} {number : Int} {place : Nat} {inside : place < bench.solvers.size}
    (placed : Position.place bench.solvers.size number .listRange = .ok ⟨place, inside⟩)
    (action : Act Solver α) :
    (on number action).runOn bench = ((action.runOn bench.solvers[place]).1,
      bench.updated place (action.runOn bench.solvers[place]).2) := by
  simp only [on, Act.runOn, ExceptT.run, ExceptT.mk, StateT.run, placed]
  rfl

/-- Only one solver is replaced, and the journal goes on in all of them. -/
theorem getElem?_updated {place : Nat} (inside : place < bench.solvers.size) (after : Solver)
    (number : Nat) : (bench.updated place after).solvers[number]? =
      if place = number then some { after with journal := #[] } else bench.solvers[number]? := by
  change (bench.solvers.setIfInBounds place _)[number]? = _
  rw [Array.getElem?_setIfInBounds, if_pos inside]

theorem getElem?_updated_self {place : Nat} (inside : place < bench.solvers.size) (after : Solver) :
    (bench.updated place after).solvers[place]? = some { after with journal := #[] } := by
  rw [getElem?_updated inside, if_pos rfl]

/-- Where the solver is as it was, nothing but the number of operations has changed. -/
theorem updated_self {place : Nat} (inside : place < bench.solvers.size)
    (noEvents : bench.solvers[place].journal = #[]) :
    bench.updated place bench.solvers[place] = { bench with operations := bench.operations + 1 } := by
  have sameSolver : { bench.solvers[place] with journal := #[] } = bench.solvers[place] := by
    rw [← noEvents]
  have sameSolvers : bench.solvers.setIfInBounds place bench.solvers[place] = bench.solvers := by
    rw [Array.setIfInBounds_def, dif_pos inside]
    exact Array.set_getElem_self inside
  unfold updated
  rw [sameSolver, sameSolvers, noEvents, Array.append_empty]

/-! ## What holds after any requests -/

/-- What holds of the solver with a number. -/
structure Kept [Platform] (history : List Turn) (number : Nat) (solver : Solver) : Prop where
  owner_eq : solver.owner = number
  wellFormed : solver.WellFormed
  journal_eq : solver.journal = #[]
  allocated_iff : ∀ literal, Allocated history number literal ↔
    literal.scope = .formula solver.owner solver.period ∧ 2 ≤ literal.code.natAbs ∧
      literal.code.natAbs ≤ solver.backend.numVars

/-- Some solver has issued a literal. -/
def Issued (bench : Bench) (literal : Lit) : Prop :=
  ∃ (number : Nat) (solver : Solver), bench.solvers[number]? = some solver ∧ solver.Issued literal

/-- What solvers have issued before a request, they have issued after it. -/
theorem Issued.asked [Platform] (issued : bench.Issued literal) {place : Nat}
    (inside : place < bench.solvers.size) (request : Request) :
    (bench.updated place (request.run.runOn bench.solvers[place]).2).Issued literal := by
  obtain ⟨number, solver, found, issued⟩ := issued
  by_cases here : place = number
  · subst here
    rw [Array.getElem?_eq_getElem inside] at found
    cases found
    exact ⟨place, _, getElem?_updated_self inside _, issued.asked request⟩
  · refine ⟨number, solver, ?_, issued⟩
    rw [getElem?_updated inside, if_neg here]
    exact found

/-- What holds of all solvers, and of all literals at hand. -/
structure Sound [Platform] (backends : List Backend) (history : List Turn) (bench : Bench) : Prop where
  size_eq : bench.solvers.size = backends.length
  kept : ∀ (number : Nat) (solver : Solver), bench.solvers[number]? = some solver →
    Kept history number solver
  issued : ∀ literal, Obtained backends.length history literal → bench.Issued literal

namespace Kept

variable {number : Nat} {solver : Solver}

/-- What a solver can use are its constants and what it has allocated since it was last cleared. -/
theorem live_iff [Platform] (kept : Kept history number solver) :
    solver.Live literal ↔ Belongs history number literal := by
  rw [Belongs, kept.allocated_iff, ← kept.owner_eq]
  exact Solver.live_iff

/-- A request to another solver. -/
theorem elsewhere [Platform] {turn : Turn} (kept : Kept history number solver)
    (elsewhere : turn.number ≠ number) :
    Kept (turn :: history) number solver where
  owner_eq := kept.owner_eq
  wellFormed := kept.wellFormed
  journal_eq := kept.journal_eq
  allocated_iff := by
    unfold Allocated
    rw [sinceClear_elsewhere elsewhere]
    exact kept.allocated_iff

/-- What is allocated in a request to the solver itself is added to what it has allocated before. -/
theorem allocated_asked_iff [Platform] (kept : Kept history number solver) {request : Request}
    (notClear : request.isClear = false) (literal : Lit) :
    Allocated (⟨number, request, solver⟩ :: history) number literal ↔
      literal.scope = .formula solver.owner solver.period ∧ 2 ≤ literal.code.natAbs ∧
        literal.code.natAbs ≤ (request.run.runOn solver).2.backend.numVars := by
  have upholds := Request.upholds notClear solver
  have positive := kept.wellFormed.numVars_pos
  have atMost := upholds.builds.numVars_le
  unfold Allocated
  rw [@sinceClear_cons _ ⟨number, request, solver⟩ notClear, List.exists_mem_cons_iff]
  change (literal ∈ solver.freshLiterals _ ∨ literal.neg ∈ solver.freshLiterals _) ∨
    Allocated history number literal ↔ _
  rw [Solver.mem_freshLiterals_iff, kept.allocated_iff, ← and_or_left, and_congr_right_iff]
  intro _
  change solver.backend.numVars < _ ∧ _ ≤ solver.backend.numVars +
    ((request.run.runOn solver).2.backend.numVars - solver.backend.numVars) ∨ _ ↔ _
  omega

/-- A request to the solver itself. -/
theorem asked [Platform] (kept : Kept history number solver) (request : Request) :
    Kept (⟨number, request, solver⟩ :: history) number
      { (request.run.runOn solver).2 with journal := #[] } := by
  have wellFormed := request.wellFormed kept.wellFormed
  cases isClear : request.isClear with
  | false =>
      have upholds := Request.upholds isClear solver
      refine ⟨upholds.owner_eq.trans kept.owner_eq, ⟨wellFormed.isOver, wellFormed.asserts_top⟩, rfl,
        fun literal => ?_⟩
      dsimp only
      rw [upholds.owner_eq, upholds.period_eq]
      exact kept.allocated_asked_iff isClear literal
  | true =>
      refine ⟨?_, ⟨wellFormed.isOver, wellFormed.asserts_top⟩, rfl, fun literal => ?_⟩
      · rw [Request.runOn_of_isClear isClear]
        exact kept.owner_eq
      · unfold Allocated
        rw [@sinceClear_clear _ ⟨number, request, solver⟩ isClear, Request.runOn_of_isClear isClear]
        change _ ↔ _ ∧ _ ∧ _ ≤ 1
        simp only [List.not_mem_nil, false_and, exists_false, false_iff]
        omega

end Kept

namespace Sound

/-- The constants of the solvers are among the literals that they have issued. -/
theorem issued_constant [Platform] (kept : ∀ (number : Nat) (solver : Solver),
      bench.solvers[number]? = some solver → Kept history number solver) {number : Nat}
    (inside : number < bench.solvers.size) :
    bench.Issued (Solver.top number) ∧ bench.Issued (Solver.bot number) := by
  have found := Array.getElem?_eq_getElem inside
  have isOwner := (kept number _ found).owner_eq
  have top := Solver.live_top bench.solvers[number]
  have bot := Solver.live_bot bench.solvers[number]
  rw [isOwner] at top bot
  exact ⟨⟨number, _, found, Or.inl top⟩, number, _, found, Or.inl bot⟩

/-- Nothing has been asked of the solvers that are created, and the two constants of each are issued. -/
theorem created [Platform] (backends : List Backend) : Sound backends [] (create backends) := by
  have isSize : (create backends).solvers.size = backends.length := by simp [create]
  have kept : ∀ (number : Nat) (solver : Solver), (create backends).solvers[number]? = some solver →
      Kept [] number solver := by
    intro number solver found
    obtain ⟨backend, _, rfl⟩ : ∃ backend, backends[number]? = some backend ∧
        Solver.create number backend = solver := by
      simpa [create, List.getElem?_zipIdx] using found
    refine ⟨rfl, Solver.wellFormed_cleared _, rfl, fun literal => ?_⟩
    change (∃ turn ∈ [], _) ↔ _ ∧ _ ∧ _ ≤ 1
    simp only [List.not_mem_nil, false_and, exists_false, false_iff]
    omega
  refine ⟨isSize, kept, fun literal obtained => ?_⟩
  induction obtained with
  | top inside => exact (issued_constant kept (isSize ▸ inside)).1
  | bot inside => exact (issued_constant kept (isSize ▸ inside)).2
  | returned impossible => cases impossible
  | neg _ hypothesis =>
      obtain ⟨number, solver, found, issued⟩ := hypothesis
      exact ⟨number, solver, found, issued.neg⟩

variable [Platform] (sound : Sound backends history bench)

include sound

/-- A literal at hand is accepted by a solver exactly if it belongs to it. -/
theorem owns_iff {place : Nat} (inside : place < bench.solvers.size)
    (obtained : Obtained backends.length history literal) :
    bench.solvers[place].Owns literal ↔ Belongs history place literal := by
  have kept := sound.kept place bench.solvers[place] (Array.getElem?_eq_getElem inside)
  rw [← kept.live_iff]
  refine ⟨fun owns => ?_, Solver.Live.owns⟩
  obtain ⟨number, solver, found, issued⟩ := sound.issued literal obtained
  -- The number in the scope leads back to the same solver.
  have sameNumber : number = place := by
    rw [← (sound.kept number solver found).owner_eq, ← kept.owner_eq, ← issued.scope_owner,
      ← owns.scope_owner]
  rw [sameNumber, Array.getElem?_eq_getElem inside] at found
  cases found
  exact issued.live_of_owns owns

/-- The literals that a solver hands back are ones that it has issued, or another solver has. -/
theorem issued_obtained {place : Nat} (inside : place < bench.solvers.size) {request : Request}
    (genuine : ∀ literal ∈ request.given, Obtained backends.length history literal)
    (obtained : literal ∈ Turn.obtained ⟨place, request, bench.solvers[place]⟩) :
    (bench.updated place (request.run.runOn bench.solvers[place]).2).Issued literal := by
  have kept := sound.kept place bench.solvers[place] (Array.getElem?_eq_getElem inside)
  have usable : ∀ literal ∈ request.given, bench.solvers[place].Usable bench.Issued literal := by
    intro given isGiven
    by_cases owns : bench.solvers[place].Owns given
    · exact Or.inl (kept.live_iff.2 ((sound.owns_iff inside (genuine given isGiven)).1 owns))
    · exact Or.inr ⟨owns, sound.issued given (genuine given isGiven)⟩
  change literal ∈ (request.run.runOn bench.solvers[place]).1.toOption.getD [] at obtained
  cases ran : (request.run.runOn bench.solvers[place]).1 with
  | error fault =>
      rw [ran] at obtained
      cases obtained
  | ok results =>
      rw [ran] at obtained
      rcases Request.usable_result kept.wellFormed usable ran literal obtained with
        live | ⟨_, issued⟩
      · exact ⟨place, _, getElem?_updated_self inside _, Or.inl live⟩
      · exact issued.asked inside request

/-- Asking one solver keeps the books of all of them right. -/
theorem asked {place : Nat} (inside : place < bench.solvers.size) {request : Request}
    (genuine : ∀ literal ∈ request.given, Obtained backends.length history literal) :
    Sound backends (⟨place, request, bench.solvers[place]⟩ :: history)
      (bench.updated place (request.run.runOn bench.solvers[place]).2) := by
  have isSize : (bench.updated place (request.run.runOn bench.solvers[place]).2).solvers.size =
      backends.length := Array.size_setIfInBounds.trans sound.size_eq
  have kept : ∀ (number : Nat) (solver : Solver),
      (bench.updated place (request.run.runOn bench.solvers[place]).2).solvers[number]? =
          some solver →
        Kept (⟨place, request, bench.solvers[place]⟩ :: history) number solver := by
    intro number solver found
    rw [getElem?_updated inside] at found
    by_cases here : place = number
    · subst here
      rw [if_pos rfl] at found
      cases found
      exact (sound.kept place _ (Array.getElem?_eq_getElem inside)).asked request
    · rw [if_neg here] at found
      exact (sound.kept number solver found).elsewhere here
  refine ⟨isSize, kept, fun literal obtained => ?_⟩
  induction obtained with
  | top below => exact (issued_constant kept (isSize ▸ below)).1
  | bot below => exact (issued_constant kept (isSize ▸ below)).2
  | neg _ hypothesis =>
      obtain ⟨number, solver, found, issued⟩ := hypothesis
      exact ⟨number, solver, found, issued.neg⟩
  | @returned turn literal isTurn member =>
      rcases List.mem_cons.1 isTurn with rfl | earlier
      · exact sound.issued_obtained inside genuine member
      · exact (sound.issued literal (.returned earlier member)).asked inside request

end Sound

/-- The books of the solvers are right after every run, by induction on its turns. -/
theorem Ran.sound [Platform] (ran : Ran backends history bench) : Sound backends history bench := by
  induction ran with
  | created => exact .created backends
  | asked _ placed request genuine hypothesis =>
      rw [runOn_on placed]
      exact hypothesis.asked _ genuine

/-! ## Refusals -/

/-- A computation failed because of the value of something that was handed to it. -/
def Rejects {α : Type} (outcome : Except Fault α) : Prop :=
  ∃ fault, outcome = .error fault ∧ fault.category = .value

/-- On any number of solvers, after whatever was asked of them, each operation on literals at hand is
rejected exactly if some operand, at whatever position and whatever the others are, is neither a constant
of the solver nor allocated by it since it was last cleared, nor the negation of such a literal.  A
rejected operation leaves all solvers as they were. -/
theorem Ran.rejects_iff_foreign [Platform] (ran : Ran backends history bench) {number : Int}
    {place : Nat} {inside : place < bench.solvers.size}
    (placed : Position.place bench.solvers.size number .listRange = .ok ⟨place, inside⟩)
    (operation : Operation)
    (genuine : ∀ literal ∈ operation.operands, Obtained backends.length history literal) :
    let asked := (on number operation.run).runOn bench
    (Rejects asked.1 ↔ ∃ literal ∈ operation.operands, ¬Belongs history place literal) ∧
      (Rejects asked.1 → asked.2 = { bench with operations := bench.operations + 1 }) := by
  have sound := ran.sound
  have kept := sound.kept place bench.solvers[place] (Array.getElem?_eq_getElem inside)
  intro asked
  have isAsked : asked = ((operation.run.runOn bench.solvers[place]).1,
      bench.updated place (operation.run.runOn bench.solvers[place]).2) := runOn_on placed operation.run
  have owns_iff := fun literal isOperand => sound.owns_iff inside (genuine literal isOperand)
  have foreign_of_rejects (rejects : Rejects asked.1) :
      ∃ literal ∈ operation.operands, ¬Belongs history place literal := by
    by_contra noForeign
    push Not at noForeign
    have live : ∀ literal ∈ operation.operands, bench.solvers[place].Live literal :=
      fun literal isOperand => kept.live_iff.2 (noForeign literal isOperand)
    obtain ⟨fault, isFault, isValue⟩ := rejects
    rw [isAsked] at isFault
    rcases operation.runOn_of_live kept.wellFormed live with ⟨results, after, ran, _⟩ | ran
    · rw [ran] at isFault
      cases isFault
    · rw [ran] at isFault
      cases isFault
      cases isValue
  have refused_of_foreign (foreign : ∃ literal ∈ operation.operands, ¬Belongs history place literal) :
      ∃ code, asked =
        (.error (.foreignLiteral code), { bench with operations := bench.operations + 1 }) := by
    obtain ⟨literal, isOperand, isForeign⟩ := foreign
    obtain ⟨found, _, _, refused⟩ := operation.guarded bench.solvers[place]
      ⟨literal, isOperand, fun owns => isForeign ((owns_iff literal isOperand).1 owns)⟩
    refine ⟨found.code, ?_⟩
    rw [isAsked, refused, updated_self inside kept.journal_eq]
  refine ⟨⟨foreign_of_rejects, fun foreign => ?_⟩, fun rejects => ?_⟩
  · obtain ⟨code, isRefused⟩ := refused_of_foreign foreign
    exact ⟨.foreignLiteral code, congrArg Prod.fst isRefused, rfl⟩
  · obtain ⟨code, isRefused⟩ := refused_of_foreign (foreign_of_rejects rejects)
    exact congrArg Prod.snd isRefused

/-- A request to the solver with a number. -/
theorem Ran.ask [Platform] (ran : Ran backends history bench) {number : Nat}
    (inside : number < bench.solvers.size) (addressed : (number : Int) < Position.limit) (request : Request)
    (genuine : ∀ literal ∈ request.given, Obtained backends.length history literal) :
    Ran backends (⟨number, request, bench.solvers[number]⟩ :: history)
      ((on number request.run).runOn bench).2 :=
  ran.asked (Position.place_natCast inside addressed _) request genuine

attribute [local instance] Platform.usual in
/-- A solver is cleared and allocates a variable with the code that one had before, which also a second
solver uses.  Beside the false constant, which would decide a conjunction, the new literal is accepted by
the first solver, the old one is not, and the second solver accepts neither. -/
theorem rejects_iff_foreign_recycled :
    let stale : Lit := ⟨.formula 0 1, 2⟩
    let fresh : Lit := ⟨.formula 0 2, 2⟩
    ∃ history bench, Ran [{ engine := .least }, { engine := .least }] history bench ∧
      history.map Turn.number = [0, 0, 1, 0] ∧ Obtained 2 history stale ∧ Obtained 2 history fresh ∧
      Belongs history 0 fresh ∧ ¬Belongs history 0 stale ∧ ¬Belongs history 1 fresh ∧
      ¬Rejects ((on 0 (Operation.all [Solver.bot 0, fresh]).run).runOn bench).1 ∧
      Rejects ((on 0 (Operation.all [Solver.bot 0, fresh, stale]).run).runOn bench).1 ∧
      Rejects ((on 1 (Operation.all [Solver.bot 1, fresh]).run).runOn bench).1 := by
  intro stale fresh
  have start : Ran [{ engine := .least }, { engine := .least }] _ _ := .created
  have first := @Ran.ask _ _ _ _ start 0 (by decide +kernel) (by decide) (.call .newVariable) nofun
  have second := @Ran.ask _ _ _ _ first 1 (by decide +kernel) (by decide) (.call .newVariable) nofun
  have third := @Ran.ask _ _ _ _ second 0 (by decide +kernel) (by decide) (.call .clear) nofun
  have ran := @Ran.ask _ _ _ _ third 0 (by decide +kernel) (by decide) (.call .newVariable) nofun
  obtain ⟨history, bench, ran, numbers, size, isStale, isFresh, belongs, notStale, notOther⟩ :
      ∃ history bench, Ran [{ engine := .least }, { engine := .least }] history bench ∧
        history.map Turn.number = [0, 0, 1, 0] ∧ bench.solvers.size = 2 ∧
        Obtained 2 history stale ∧ Obtained 2 history fresh ∧ Belongs history 0 fresh ∧
        ¬Belongs history 0 stale ∧ ¬Belongs history 1 fresh := by
    refine ⟨_, _, ran, rfl, rfl, ?_, ?_, by decide +kernel, by decide +kernel, by decide +kernel⟩
    · exact .returned (List.mem_cons_of_mem _ (List.mem_cons_of_mem _ (List.mem_cons_of_mem _
        List.mem_cons_self))) (by decide +kernel)
    · exact .returned List.mem_cons_self (by decide +kernel)
  have isBot : Obtained 2 history (Solver.bot 0) := .bot (by decide)
  have isOtherBot : Obtained 2 history (Solver.bot 1) := .bot (by decide)
  have placed : Position.place bench.solvers.size (0 : Nat) .listRange = .ok ⟨0, size ▸ by decide⟩ :=
    Position.place_natCast _ (by decide) _
  have placedOther : Position.place bench.solvers.size (1 : Nat) .listRange =
      .ok ⟨1, size ▸ by decide⟩ := Position.place_natCast _ (by decide) _
  refine ⟨history, bench, ran, numbers, isStale, isFresh, belongs, notStale, notOther, ?_, ?_, ?_⟩
  · have accepted := ran.rejects_iff_foreign placed (.all [Solver.bot 0, fresh])
      (List.forall_mem_cons.2 ⟨isBot, List.forall_mem_singleton.2 isFresh⟩)
    intro rejects
    obtain ⟨literal, inside, foreign⟩ := accepted.1.1 rejects
    refine foreign ?_
    rcases List.mem_cons.1 inside with rfl | isLast
    · exact Or.inr (Or.inl rfl)
    · exact List.mem_singleton.1 isLast ▸ belongs
  · have refused := ran.rejects_iff_foreign placed (.all [Solver.bot 0, fresh, stale])
      (List.forall_mem_cons.2 ⟨isBot, List.forall_mem_cons.2
        ⟨isFresh, List.forall_mem_singleton.2 isStale⟩⟩)
    exact refused.1.2 ⟨stale, by decide, notStale⟩
  · have refused := ran.rejects_iff_foreign placedOther (.all [Solver.bot 1, fresh])
      (List.forall_mem_cons.2 ⟨isOtherBot, List.forall_mem_singleton.2 isFresh⟩)
    exact refused.1.2 ⟨fresh, by decide, notOther⟩

end Bench

end TensorLogic
