/-
Module: TensorLogic.Algebra.Circuit
Purpose: The algebra that records every negation and conjunction as a gate of a circuit.
Main exports: Node, Gate, Circuit, Circuit.free, Circuit.simplifying
-/
import TensorLogic.Value

namespace TensorLogic

/-!
The elements are the nodes of a circuit.  In the free algebra every call of negation and conjunction
makes a gate, even if the same gate was made before, so that the circuit shows which calls a derived
operation makes, and in which order.  The simplifying algebra makes no gate where a constant or one
operand that is given twice decides the result; what the operands are is not looked at otherwise.
-/

/-- The nodes of a circuit: the two constants, named inputs, and gates by their number, the first gate
being number one. -/
inductive Node where
  | top
  | bot
  | leaf (name : String)
  | gate (number : Nat)
deriving Repr, DecidableEq

/-- A gate and its operands. -/
inductive Gate where
  | neg (operand : Node)
  | conj (left right : Node)
deriving Repr, DecidableEq

/-- The gates that were made, in order. -/
structure Circuit where
  gates : Array Gate := #[]
  journal : Journal := #[]

namespace Circuit

instance : HasJournal Circuit :=
  ⟨fun event circuit => { circuit with journal := circuit.journal.push event }⟩

/-- The name of a node. -/
def nodeName : Node → String
  | .top => "T"
  | .bot => "F"
  | .leaf name => name
  | .gate number => "g" ++ toString number

/-- Make a gate. -/
def record (gate : Gate) : Act Circuit (Value Node) :=
  modifyGet fun circuit =>
    let number := circuit.gates.size + 1
    (.elem (.gate number), { circuit with gates := circuit.gates.push gate })

/-- A value that has to be a node. -/
def node : Value Node → Act Circuit Node
  | .elem node => pure node
  | _ => throw .wrongType

/-- The constants among the nodes. -/
def constants : Constants (Value Node) := Value.elementConstants .bot .top (by decide)

/-- The value that a negation comes to without a gate. -/
def simpleNeg? : Value Node → Option (Value Node)
  | .elem .top => some (.elem .bot)
  | .elem .bot => some (.elem .top)
  | _ => none

/-- The value that a conjunction comes to without a gate. -/
def simpleConj? (left right : Value Node) : Option (Value Node) :=
  if constants.isBot left || constants.isBot right then some constants.bot
  else if constants.isTop left then some right
  else if constants.isTop right || left.isSame right then some left
  else none

/-- A gate for the negation of a value. -/
def recordNeg (operand : Value Node) : Act Circuit (Value Node) := do
  record (.neg (← node operand))

/-- A gate for the conjunction of two values. -/
def recordConj (left right : Value Node) : Act Circuit (Value Node) := do
  let first ← node left
  let second ← node right
  record (.conj first second)

/-- The algebra in which every call makes a gate. -/
def free : BoolAlgebra Circuit (Value Node) := .inherit constants recordNeg recordConj

/-- The algebra that makes a gate only where it has to. -/
def simplifying : BoolAlgebra Circuit (Value Node) :=
  .inherit constants
    (fun operand =>
      match simpleNeg? operand with
      | some simple => pure simple
      | none => recordNeg operand)
    (fun left right =>
      match simpleConj? left right with
      | some simple => pure simple
      | none => recordConj left right)

end Circuit

end TensorLogic
