/-
Module: TensorLogic.Sat.Learning
Purpose: A search for a model that learns a clause from every conflict.
Main exports: Sat.Learner, Sat.Learner.run, Sat.Outcome, Sat.learn
-/
import TensorLogic.Sat.Conflict
import TensorLogic.Sat.Propagation

namespace TensorLogic.Sat

/-!
The search decides one variable after the other and draws all consequences.  A conflict teaches a clause, and
levels are taken back until that clause forces its literal.  A conflict without any decision ends the search:
there is no model.

To find the least model, the search goes on from the first model that it finds.  It fixes the variables up
to one that has the wrong value without need, all with the value that is preferred as far as nothing forces
the other, and searches again; until every variable with the wrong value is forced by smaller ones.

At first it fixes all variables, and then some more each time, as long as that goes well.  A restart gives this
up.
-/

/-- The state of a search that learns. -/
structure Learner where
  state : Trail
  /-- The clauses that were learned, and how many levels each of them joins. -/
  facts : Array Lemma
  spans : Array Nat
  /-- How many literals of level zero have a clause of their own. -/
  settled : Nat := 0
  /-- Below which variable all have to be fixed, below which they are, and at how many levels; and how many
  variables are fixed in advance the next time. -/
  known : Nat := 0
  fixed : Nat := 0
  anchored : Nat := 0
  ahead : Nat := 0
  /-- The number of conflicts since the last restart, and the number of restarts. -/
  conflicts : Nat := 0
  restarts : Nat := 0
  /-- The number of clauses learned before the last time that some were forgotten, and how often that was. -/
  kept : Nat := 0
  clearings : Nat := 0

namespace Learner

/-- Add a fact that is derived from earlier clauses. -/
def addFact (learner : Learner) (clause : Array Nat) (grounds : List Nat) (span : Nat) : Learner :=
  { learner with
    state := learner.state.addClause clause
    facts := learner.facts.push ⟨clause.toList, grounds⟩
    spans := learner.spans.push span }

/-- Let a clause be the reason for the literal that a variable has. -/
def giveReason (learner : Learner) (number clause : Nat) : Learner :=
  { learner with state := learner.state.giveReason number clause }

/-- Derive a clause of its own for the next true literal of level zero. -/
def settleOne (learner : Learner) (code : Nat) : Learner :=
  let reason := learner.state.reasons.getD (numberOf code) noClause
  let clause := learner.state.clauses.getD reason #[]
  if clause.size ≤ 1 then { learner with settled := learner.settled + 1 }
  else
    let grounds := learner.state.reasonsOf clause code
    let size := learner.state.clauses.size
    (addFact { learner with settled := learner.settled + 1 } #[code] (grounds ++ [reason])
      0).giveReason (numberOf code) size

/-- Derive a clause of its own for each true literal of level zero, from a place of the trail on, for no more
than so many literals. -/
def settle (learner : Learner) : (literals : Nat) → Learner
  | 0 => learner
  | literals + 1 =>
      match learner.state.trail[learner.settled]? with
      | none => learner
      | some code => settle (learner.settleOne code) literals

/-- Derive the empty clause from a clause all of whose literals are false at level zero. -/
def refute (learner : Learner) (clause : Nat) : Learner :=
  let settled := learner.settle learner.state.trail.size
  let literals := settled.state.clauses.getD clause #[]
  settled.addFact #[] (settled.state.reasonsOf literals settled.state.values.size ++ [clause]) 0

/-- The number of different levels of some literals. -/
def spanOf (state : Trail) (codes : Array Nat) : Nat :=
  (codes.foldl (fun (count, isCounted) code =>
    let level := state.levels.getD (numberOf code) 0
    if isCounted.getD level true then (count, isCounted)
    else (count + 1, isCounted.setIfInBounds level true))
    (0, Array.replicate (state.level + 1) false)).1

/-- Note which variables took part in a conflict, unless the order of the variables does not matter because
they are fixed in advance. -/
def credit (learner : Learner) (numbers : Array Nat) : Learner :=
  if learner.known < learner.fixed then learner
  else { learner with state := learner.state.credit numbers }

/-- Go back to a level where the clause that was added last forces its first literal.  At that level it
watches another one, if it has any. -/
def follow (learner : Learner) (clause forced : Nat) (second? : Option Nat) (level : Nat) :
    Learner :=
  { learner with
    state :=
      let back := learner.state.backtrack level
      let watching := match second? with
        | some second => back.watch clause forced second
        | none => back
      watching.assign forced clause
    anchored := Nat.min learner.anchored level
    conflicts := learner.conflicts + 1 }

/-- Learn from a clause with a conflict, and go back to where the new clause forces its literal. -/
def learnFrom (learner : Learner) (clause : Nat) : Learner :=
  match Conflict.analyse learner.state clause with
  | none => learner
  | some lesson =>
      let target := Conflict.highestLevel learner.state lesson.others
      let span := spanOf learner.state lesson.others + 1
      let size := learner.state.clauses.size
      let second? := lesson.others.find? fun code =>
        learner.state.levels.getD (numberOf code) 0 == target
      let credited := (lesson.replaced ++ lesson.others.map numberOf).push (numberOf lesson.forced)
      ((learner.addFact (#[lesson.forced] ++ lesson.others) lesson.grounds span).credit
        credited).follow size lesson.forced second? target

/-! ### Restarts and forgetting -/

/-- The `number`th member, counted from one, of the sequence 1, 1, 2, 1, 1, 2, 4, 1, 1, 2, ...: a power of two
at the end of each complete block, which otherwise repeats the sequence before it.  The steps bound the
number of blocks that are looked at. -/
def blockLength (number : Nat) : (steps : Nat) → Nat
  | 0 => 1
  | steps + 1 =>
      let height := Nat.log2 (number + 1)
      if number + 1 = Nat.pow 2 height then Nat.pow 2 (height - 1)
      else blockLength (number + 1 - Nat.pow 2 height) steps

/-- The number of conflicts before the first restart. -/
def firstRestart : Nat := 512

/-- The number of conflicts between restarts that follow each other most closely. -/
def restartUnit : Nat := 64

/-- The number of conflicts before the next restart. -/
def restartAfter (learner : Learner) : Nat :=
  if learner.restarts = 0 then firstRestart
  else restartUnit * blockLength learner.restarts 64

/-- Start again from the fixed levels, if it is time to.  If variables are fixed in advance, all levels are
taken back, and those variables are no longer fixed. -/
def restart (learner : Learner) : Learner :=
  if learner.conflicts < learner.restartAfter then learner
  else
    let level := if learner.known < learner.fixed then 0 else learner.anchored
    { learner with
      state := learner.state.backtrack level
      fixed := learner.known
      anchored := level
      ahead := 0
      conflicts := 0
      restarts := learner.restarts + 1 }

/-- Whether a clause is the reason for one of the literals that it watches. -/
def isReason (state : Trail) (clause : Nat) : Bool :=
  state.reasons.getD (numberOf (state.firsts.getD clause 0)) noClause == clause ||
    state.reasons.getD (numberOf (state.seconds.getD clause 0)) noClause == clause

/-- The learned clauses that may be forgotten: those that join more than two levels and are no reason. -/
def forgettable (learner : Learner) (base : Nat) : List (Nat × Nat) :=
  (List.range learner.spans.size).filterMap fun number =>
    let span := learner.spans.getD number 0
    if 2 < span && !isReason learner.state (base + number) then some (span, number) else none

/-- So many clauses are learned before half of those that may be forgotten are. -/
def forgetAfter (learner : Learner) : Nat := 2000 + 300 * learner.clearings

/-- Forget the half of the clauses that join the most levels, if there are many. -/
def forget (learner : Learner) (base : Nat) : Learner :=
  if learner.facts.size < learner.kept + learner.forgetAfter then learner
  else
    let candidates := (learner.forgettable base).mergeSort fun left right => right.1 ≤ left.1
    let dropped := (candidates.take (candidates.length / 2)).map Prod.snd
    let spans := dropped.foldl (fun spans number => spans.setIfInBounds number 0) learner.spans
    let marks := dropped.foldl (fun marks number => marks.setIfInBounds (base + number) true)
      (Array.replicate learner.state.clauses.size false)
    { learner with
      kept := learner.facts.size
      clearings := learner.clearings + 1
      spans
      state := { learner.state with
        watches := learner.state.watches.map fun clauses =>
          clauses.filter fun clause => !marks.getD clause false } }

/-! ### Decisions -/

/-- The least open variable from the given one on and below the limit, looked for in so many steps. -/
def openFrom (state : Trail) (limit number : Nat) : (steps : Nat) → Nat
  | 0 => number
  | steps + 1 =>
      if number < limit && state.value (2 * number) != .unknown then
        openFrom state limit (number + 1) steps
      else number

/-- Decide the first open variable of the order, looked for among so many.  The result says whether there is
one. -/
def decideFree (state : Trail) : (steps : Nat) → Bool × Trail
  | 0 => (false, state)
  | steps + 1 =>
      match state.takeFirst with
      | (none, next) => (false, next)
      | (some number, next) =>
          if next.value (2 * number) == .unknown then
            (true, next.decide (next.phases.getD number 0))
          else decideFree next steps

/-- Decide a variable: the least open one among those that are fixed, otherwise the first of the order.  The
result says whether there is one: there is none when all variables have a value. -/
def decide (learner : Learner) (preferred : Bool) : Bool × Learner :=
  let number := openFrom learner.state learner.fixed learner.state.scan
    (learner.fixed - learner.state.scan)
  if number < learner.fixed then
    let level := learner.state.level
    (true, { learner with
      state := { learner.state with scan := number }.decide (codeOf preferred number)
      anchored := level + 1 })
  else
    let (isDecided, state) :=
      decideFree { learner.state with scan := number } learner.state.levels.size
    (isDecided, { learner with state })

/-- The least variable from the given one on that has the wrong value at a level that is not fixed, looked for
among so many. -/
def wrongFrom (learner : Learner) (preferred : Bool) (number : Nat) : (steps : Nat) → Option Nat
  | 0 => none
  | steps + 1 =>
      if learner.state.value (codeOf preferred number) == .refuted &&
          learner.anchored < learner.state.levels.getD number 0 then some number
      else wrongFrom learner preferred (number + 1) steps

/-- Fix all variables up to the given one, and some more. -/
def fixUpTo (learner : Learner) (number : Nat) : Learner :=
  let count := learner.state.levels.size
  { learner with
    state := learner.state.backtrack learner.anchored
    known := number + 1
    fixed := Nat.min count (number + 1 + learner.ahead)
    ahead := 2 * learner.ahead + 1
    conflicts := 0 }

/-! ### The search -/

/-- Draw all consequences of the true literals. -/
def propagate (learner : Learner) : Option Nat × Learner :=
  let (conflict?, state) := learner.state.propagate
  (conflict?, { learner with state })

/-- How a search ends. -/
inductive End where
  | found
  | refuted
  | stopped
deriving Repr, DecidableEq

/-- Search for a model, for the least one if that is asked for, in no more than so many steps. -/
def run (preferred isLeast : Bool) (base : Nat) (learner : Learner) : (steps : Nat) → End × Learner
  | 0 => (.stopped, learner)
  | steps + 1 =>
      let (conflict?, learner) := learner.propagate
      match conflict? with
      | some clause =>
          if learner.state.level = 0 then (.refuted, learner.refute clause)
          else run preferred isLeast base (learner.learnFrom clause) steps
      | none =>
          let settled :=
            if learner.state.level = 0 then learner.settle learner.state.trail.size else learner
          let (isDecided, decided) := (settled.restart.forget base).decide preferred
          if isDecided then run preferred isLeast base decided steps
          else if isLeast then
            match decided.wrongFrom preferred decided.fixed
                (decided.state.levels.size - decided.fixed) with
            | some number => run preferred isLeast base (decided.fixUpTo number) steps
            | none => (.found, decided)
          else (.found, decided)

/-! ### Beginning and ending a search -/

/-- The different literals of a clause, after those that were kept already, which are marked; or `none` if the
clause also has the negation of one of them. -/
def differentCodes (marks : Marks) (kept : Array Nat) : Clause → Option (Array Nat) × Marks
  | [] => (some kept, marks)
  | literal :: clause =>
      let code := code literal
      if marks.isFalse code then differentCodes marks kept clause
      else if marks.isFalse (opposite code) then (none, marks)
      else differentCodes (marks.refute code) (kept.push code) clause

/-- Add a clause of the formula before any decision.  Nothing is watched of a clause that is true in any case.
A clause that cannot be made true is noted, unless another one was noted before. -/
def addGiven (noted : Option Nat) (state : Trail) (codes? : Option (Array Nat)) :
    Option Nat × Trail :=
  let number := state.clauses.size
  match codes? with
  | none => (noted, state.addClause #[])
  | some codes =>
      match codes[0]?, codes[1]? with
      | some first, some second => (noted, (state.addClause codes).watch number first second)
      | some code, none =>
          match state.value code with
          | .unknown => (noted, (state.addClause codes).assign code number)
          | .satisfied => (noted, state.addClause codes)
          | .refuted => (noted <|> some number, state.addClause codes)
      | none, _ => (noted <|> some number, state.addClause codes)

/-- Let the variables of a clause be decided. -/
def expect (state : Trail) (clause : Clause) : Trail :=
  { state with
    order := clause.foldl (fun order literal => order.insert literal.natAbs) state.order }

/-- Add the clauses of the formula. -/
def addAllGiven (noted : Option Nat) (marks : Marks) (state : Trail) :
    Formula → Option Nat × Trail
  | [] => (noted, state)
  | clause :: formula =>
      let (codes?, marked) := differentCodes marks.next #[] clause
      let (noted, added) := addGiven noted (expect state clause) codes?
      addAllGiven noted marked added formula

end Learner

/-- A literal that is true, and the number of the clause that forces it, if it is not decided. -/
structure Step where
  code : Nat
  ground : Option Nat
deriving Repr, DecidableEq

/-- What a search comes to: a model and how it was found, or a derivation of the empty clause. -/
inductive Outcome where
  | model (steps : List Step) (facts : List Lemma)
  | refutation (facts : List Lemma)
  | unknown
deriving Repr

/-- The steps to the literals that are true. -/
def Trail.steps (state : Trail) : List Step :=
  state.trail.toList.map fun code =>
    let reason := state.reasons.getD (numberOf code) noClause
    ⟨code, if reason = noClause then none else some reason⟩

/-- No search takes as many steps. -/
def maxSteps : Nat := 0x10000000000

/-- Search for a model of a formula over the variables below a number, for the least one if that is asked
for. -/
def learn (preferred isLeast : Bool) (count : Nat) (formula : Formula) : Outcome :=
  match Learner.addAllGiven none (.create (2 * count)) (.create preferred count) formula with
  | (some clause, state) =>
      .refutation (Learner.refute { state, facts := #[], spans := #[] } clause).facts.toList
  | (none, state) =>
      let base := state.clauses.size
      let fixed := if isLeast then count else 0
      match Learner.run preferred isLeast base { state, facts := #[], spans := #[], fixed }
          maxSteps with
      | (.found, learner) => .model learner.state.steps learner.facts.toList
      | (.refuted, learner) => .refutation learner.facts.toList
      | (.stopped, _) => .unknown

end TensorLogic.Sat
