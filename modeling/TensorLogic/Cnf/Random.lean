/-
Module: TensorLogic.Cnf.Random
Purpose: Formulas of randomly drawn clauses of one size.
Main exports: choices, binomial, Draw, Draw.clause, Found, Found.add, Cnf.collect, Cnf.Parameters,
  Cnf.random, Clause.isAscending, Clause.hasDistinctVariables, Formula.countDistinct, Draw.following,
  Draw.sequence, Draw.source
-/
import Std.Data.HashSet
import TensorLogic.Cnf.Basic

namespace TensorLogic

/-!
A clause of size `k` over `n` variables has `k` different variables, each with a sign; its literals are
kept in ascending order.  There are `binomial n k * 2 ^ k` of them.  Clauses are drawn until there are
enough different ones; a clause that was drawn before is dropped.
-/

/-- The number of ways to choose so many out of so many, counted up from choosing nothing. -/
def choices (total : Nat) : Nat → Nat
  | 0 => 1
  | chosen + 1 => choices total chosen * (total - chosen) / (chosen + 1)

/-- The number of ways to choose so many out of so many.  To choose some is to leave the others, so that the
smaller of the two numbers is counted up to. -/
def binomial (total chosen : Nat) : Nat :=
  if total < chosen then 0 else choices total (Nat.min chosen (total - chosen))

/-- Choosing and leaving come to the same number. -/
example : binomial 5 2 = 10 ∧ binomial 5 3 = 10 ∧ binomial 5 5 = 1 ∧ binomial 5 6 = 0 := by decide

/-- What is drawn for one clause: variables counted from zero, and a sign for each, zero standing for a
positive literal. -/
structure Draw where
  places : List Datum
  signs : List Datum
deriving Repr

/-- The literal of a variable and a sign. -/
def Draw.literal (place sign : Datum) : Except Fault Int := do
  let number ← place.truncated
  pure (if sign == .int 0 then number + 1 else -number - 1)

/-- The clause of a draw. -/
def Draw.clause (draw : Draw) : Except Fault Clause := do
  let literals ← (draw.places.zip draw.signs).mapM fun (place, sign) => Draw.literal place sign
  pure (literals.mergeSort (· ≤ ·))

/-- A sign other than zero negates its literal, and the literals are brought into ascending order. -/
example : (Draw.clause ⟨[.int 2, .int 0], [.int 0, .int 1]⟩).toOption = some [-1, 3] := by cbv

/-- The number of different clauses, with as many digits as it takes. -/
def clauseCount (size numVars : Nat) : Nat := binomial numVars size * Nat.pow 2 size

/-- Different clauses, the latest first, and the set of them, in which a clause is looked up. -/
structure Found where
  clauses : List Clause := []
  known : Std.HashSet Clause := ∅
  nodup : clauses.Nodup := by simp
  mem_known : ∀ clause, clause ∈ known ↔ clause ∈ clauses := by simp

/-- One more clause, which was not found before. -/
def Found.add (found : Found) (clause : Clause) (isNew : clause ∉ found.known) : Found where
  clauses := clause :: found.clauses
  known := found.known.insert clause
  nodup := List.nodup_cons.2 ⟨fun member => isNew ((found.mem_known clause).2 member), found.nodup⟩
  mem_known := fun other => by
    rw [Std.HashSet.mem_insert, List.mem_cons, found.mem_known, beq_iff_eq, eq_comm]

namespace Cnf

/-- Draw clauses until so many new ones are found as are missing, which are kept in order of their first
occurrence.  The draws that are not needed are returned. -/
def collect (missing : Nat) (found : Found) : List Draw → Except Fault (Formula × List Draw)
  | [] => if missing = 0 then .ok (found.clauses.reverse, []) else .error .drawsExhausted
  | draw :: draws =>
      if missing = 0 then .ok (found.clauses.reverse, draw :: draws)
      else
        match draw.clause with
        | .error fault => .error fault
        | .ok clause =>
            if isKnown : clause ∈ found.known then collect missing found draws
            else collect (missing - 1) (found.add clause isKnown) draws

/-- What a random formula is asked to be: the size of its clauses, the number of its variables and the
number of its clauses. -/
structure Parameters where
  size : Whole
  numVars : Count
  count : Nat
deriving Repr

/-- The number that a parameter is. -/
def parameter (datum : Datum) : Except Fault Quantity :=
  match datum.number? with
  | some number => .ok number
  | none => .error .wrongType

/-- The parameters that three data are.  Each is compared with what it has to be as soon as it is read; all
of them may have a fraction in these comparisons.  Then the number of clauses of that size is needed,
for which the first two have to be whole, and either the variables of a clause or the others have to be so
few that their number fits into a machine word. -/
def Parameters.ofData (size numVars count : Datum) : Except Fault Parameters := do
  let least ← parameter size
  if least.atMost (.ofInt 0) then throw .clauseSize
  if (← parameter numVars).less least then throw (.tooFewVariables size)
  let asked ← parameter count
  if asked.atMost (.ofInt 0) then throw .clauseNumber
  let width ← size.whole
  let total ← match (← numVars.whole).count? with
    | some total => pure total
    | none => throw (.tooFewVariables size)
  if wordLimit ≤ Nat.min width.value.toNat (total.value - width.value.toNat) then throw .hugeChoice
  let bound := clauseCount width.value.toNat total.value
  match asked with
  | .infinite _ => throw (.tooManyClauses bound)
  | .finite number =>
      if (Exact.ofInt bound).less number then throw (.tooManyClauses bound)
      pure ⟨width, total, number.ceiling.toNat⟩

/-- The formula of so many different clauses, drawn in turn; and the draws that are left. -/
def random (parameters : Parameters) (draws : List Draw) : Except Fault (Cnf × List Draw) := do
  let (clauses, left) ← collect parameters.count {} draws
  pure (⟨parameters.numVars, clauses.map Clause.written⟩, left)

end Cnf

/-!
### What is known of drawn clauses
-/

/-- Whether the literals of a clause are in ascending order.  Neighbours decide, as the order is
transitive. -/
def Clause.isAscending : Clause → Bool
  | first :: second :: rest => first ≤ second && isAscending (second :: rest)
  | _ => true

/-- Whether no number in ascending order is followed by itself. -/
def isStrict : List Nat → Bool
  | first :: second :: rest => first != second && isStrict (second :: rest)
  | _ => true

/-- Whether no two literals of a clause have the same variable. -/
def Clause.hasDistinctVariables (clause : Clause) : Bool :=
  isStrict ((clause.map Int.natAbs).mergeSort (· ≤ ·))

/-- The number of different clauses of a formula. -/
def Formula.countDistinct (formula : Formula) : Nat := (Std.HashSet.ofList formula).size

/-!
### A source of draws

Subsets of the same size are ordered by their greatest member, then by the one below it, and so on, so that
those of the first numbers come before all others.  Each subset is drawn with all signs, in an order that a
seed decides, before the next one is; so no clause is drawn twice.
-/

namespace Draw

/-- The subset that follows one whose members are in ascending order: the first member that has room is
increased by one, and those before it, which are so many, start again from zero on. -/
def following (before : Nat) : List Nat → List Nat
  | [] => []
  | [place] => List.range before ++ [place + 1]
  | place :: next :: places =>
      if place + 1 < next then List.range before ++ (place + 1) :: next :: places
      else following (before + 1) (next :: places)

/-- The subsets of two of the first four numbers. -/
example :
    following 0 [0, 1] = [0, 2] ∧ following 0 [0, 2] = [1, 2] ∧ following 0 [1, 2] = [0, 3] ∧
      following 0 [0, 3] = [1, 3] ∧ following 0 [1, 3] = [2, 3] := by decide

/-- The signs that the last `size` binary digits of a number stand for. -/
def digits (size number : Nat) : List Datum :=
  (List.range size).map fun place => .int (if number.testBit place then 1 else 0)

/-- So many draws of subsets from a given one on.  Patterns of signs are counted up to a number of them, and
each is combined with the seed. -/
def sequence (size patterns seed : Nat) (places : List Nat) (pattern : Nat) : Nat → List Draw
  | 0 => []
  | count + 1 =>
      ⟨places.map fun place => .int (Int.ofNat place), digits size (Nat.xor pattern seed)⟩ ::
        if pattern + 1 < patterns then sequence size patterns seed places (pattern + 1) count
        else sequence size patterns seed (following 0 places) 0 count

/-- The number that a seed is.  It may not be negative. -/
def seedNumber (datum : Datum) : Except Fault Nat := do
  let seed ← datum.whole
  if seed.value < 0 then .error .negativeSeed else .ok seed.value.toNat

/-- What a source of draws begins with: a number, or the sum of several, or nothing in particular. -/
def seed : Datum → Except Fault Nat
  | .scalar _ .null => .ok 0
  | .list _ seeds => seeds.foldlM (fun total seed => do pure (total + (← seedNumber seed))) 0
  | datum => seedNumber datum

/-- As many draws as the parameters need, from a source that begins with a seed.  The number of variables
has to fit into a machine word, and the size of a clause has to be given as a number. -/
def source (parameters : Cnf.Parameters) (given : Datum) : Except Fault (List Draw) := do
  let start ← seed given
  if wordLimit ≤ parameters.numVars.value then throw .hugeWord
  match parameters.size with
  | .truth _ => throw .wrongType
  | .number size =>
      pure (sequence size.toNat (Nat.pow 2 size.toNat) start (List.range size.toNat) 0
        parameters.count)

end Draw

end TensorLogic
