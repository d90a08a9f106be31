/-
Module: TensorLogic.Datum.Function
Purpose: Functions on data that can be named: arithmetic, comparison and the building of texts and
  lists.
Main exports: Datum.add, Datum.sub, Datum.mul, Datum.linear, Unary, Binary, Reduction, Unary.named,
  Binary.named, Reduction.named
-/
import TensorLogic.Platform

namespace TensorLogic

/-!
The functions that a tensor of data can be mapped with.  A truth value in arithmetic is the number
zero or one, and the result is a number.  Texts and lists can be joined, and repeated by a number.
Everything else is a wrong type.

Each of the three enumerations lists the functions of one arity; the function of a name is its
`apply`.

A name may also be given where functions of another arity are expected.  Then a function of a list and one
of a single argument stand in for each other, the argument being the sequence; a function of two arguments
does not accept one, nor the others two.  The function that leaves a list as it is does so with any datum.
-/

namespace Datum

/-- The whole number that a datum stands for, or a fault. -/
def integer (datum : Datum) : Except Fault Int :=
  match datum.integer? with
  | some value => .ok value
  | none => .error .wrongType

/-- Members one after the other, so many times.  No members, and no times, are nothing. -/
def copies {α : Type} (times : Nat) (members : List α) : List α :=
  if members.isEmpty then [] else (List.replicate times members).flatten

/-- Members one after the other, so many times; a negative number of times is none.  The number of times
has to fit into a machine word, and there has to be memory for the members; where not even their number
fits into a word, `tooLong` is reported. -/
def repeatedMembers [Platform] {α : Type} (tooLong : Fault) (times : Int) (members : List α) :
    Except Fault (List α) :=
  if times < -wordLimit || wordLimit ≤ times then .error .hugeSize
  else if wordLimit ≤ times.toNat * members.length then .error tooLong
  else if memoryLimit ≤ times.toNat * members.length then .error .outOfMemory
  else .ok (copies times.toNat members)

/-- A text or a list, repeated so many times.  A text once is the text itself, a list once is a new one. -/
def repeated [Platform] (times : Int) : Datum → Except Fault Datum
  | scalar mark (.str text) =>
      if times = 1 then .ok (scalar mark (.str text))
      else do pure (str (String.ofList (← repeatedMembers .longText times text.toList)))
  | list _ items => do pure (ofList (← repeatedMembers .outOfMemory times items))
  | _ => .error .wrongType

attribute [local instance] Platform.usual in
/-- Nothing can be repeated as often as a machine word says, and not more often. -/
example :
    (repeatedMembers .longText 0x7fffffffffffffff ([] : List Char)).toOption = some [] ∧
      (repeatedMembers .longText (-0x8000000000000001) ([] : List Char)).toOption = none ∧
      (repeatedMembers .longText 2 ['a', 'b']).toOption = some ['a', 'b', 'a', 'b'] := by
  decide +kernel

/-- Two texts one after the other.  Beside an empty text the other one remains as it is. -/
def append (left right : Datum) (first second : String) : Datum :=
  if first.isEmpty then right else if second.isEmpty then left else str (first ++ second)

/-- The sum of two numbers, or two texts or two lists one after the other. -/
def add (left right : Datum) : Except Fault Datum :=
  match left, right with
  | scalar _ (.str first), scalar _ (.str second) => .ok (append left right first second)
  | list _ firsts, list _ seconds => .ok (ofList (firsts ++ seconds))
  | _, _ => do return int ((← left.integer) + (← right.integer))

/-- The difference of two numbers. -/
def sub (left right : Datum) : Except Fault Datum := do
  return int ((← left.integer) - (← right.integer))

/-- The product of two numbers, or a text or a list as many times as a number says. -/
def mul [Platform] (left right : Datum) : Except Fault Datum :=
  match left.integer?, right.integer? with
  | some m, some n => .ok (int (m * n))
  | some times, none => right.repeated times
  | none, some times => left.repeated times
  | none, none => .error .wrongType

/-- The linear function of coordinates: a base, to which each coordinate is added as many times as its
coefficient says.  Coordinates or coefficients without a counterpart do not count. -/
def linear [Platform] (base coefficients : Datum) (coordinates : List Nat) : Except Fault Datum :=
  match coefficients.items? with
  | none => .error .wrongType
  | some factors => do
      let terms ← (factors.zip coordinates).mapM fun (factor, coordinate) =>
        factor.mul (int coordinate)
      base.add (← terms.foldlM add (int 0))

/-- Zero, unless the datum is a negative number, which is a fault of its own, or no number. -/
def refuseNegative (datum : Datum) : Except Fault Datum :=
  match datum.number? with
  | none => .error .wrongType
  | some number =>
      if number.less (.ofInt 0) then .error (.negativeElement datum) else .ok (int 0)

/-- The content of a text. -/
def textual : Datum → Except Fault String
  | scalar _ (.str text) => .ok text
  | _ => .error .wrongType

/-- Texts put together with plus signs between them, in square brackets. -/
def joined (data : List Datum) : Except Fault Datum := do
  pure (str ("[" ++ "+".intercalate (← data.mapM textual) ++ "]"))

/-- The first of the data that `refuseNegative` does not accept decides. -/
def refuseNegatives : List Datum → Except Fault Datum
  | [] => .ok (int 0)
  | datum :: data => do
      let _ ← datum.refuseNegative
      refuseNegatives data

/-- Examine an argument: the members of a list one by one, everything else as it is. -/
def examine : Datum → Except Fault Datum
  | list _ items => refuseNegatives items
  | datum => datum.refuseNegative

end Datum

/-- The named functions of one argument. -/
inductive Unary where
  | negate
  | square
  | wrap
  | complement
  | examine
deriving Repr, DecidableEq

namespace Unary

/-- Every name of a function of one argument, with its function. -/
def table : List (String × Unary) :=
  [("neg", negate), ("square", square), ("wrap", wrap), ("not", complement), ("boom", examine)]

/-- The value of a function of one argument. -/
def apply [Platform] (function : Unary) (datum : Datum) : Except Fault Datum :=
  match function with
  | negate => do return .int (-(← datum.integer))
  | square => datum.mul datum
  | wrap => .ok (.ofList [datum])
  | complement => .ok (.bool !datum.truth)
  | examine => datum.examine

end Unary

/-- The named functions of two arguments. -/
inductive Binary where
  | add
  | sub
  | mul
  | pair
  | equal
  | text
  | examine
deriving Repr, DecidableEq

namespace Binary

/-- Every name of a function of two arguments, with its function. -/
def table : List (String × Binary) :=
  [("add", add), ("sub", sub), ("mul", mul), ("pair", pair), ("eq", equal), ("text", text),
    ("boom", examine)]

/-- The value of a function of two arguments. -/
def apply [Platform] (function : Binary) (left right : Datum) : Except Fault Datum :=
  match function with
  | add => left.add right
  | sub => left.sub right
  | mul => left.mul right
  | pair => .ok (.ofList [left, right])
  | equal => .ok (.bool (left == right))
  | text => .ok (.str ("(" ++ left.plainText ++ "*" ++ right.plainText ++ ")"))
  | examine => do
      let _ ← left.examine
      right.examine

end Binary

/-- The named functions of a list. -/
inductive Reduction where
  | sum
  | product
  | list
  | length
  | join
  | alternate
  | examine
deriving Repr, DecidableEq

namespace Reduction

/-- Every name of a function of a list, with its function. -/
def table : List (String × Reduction) :=
  [("sum", sum), ("prod", product), ("list", list), ("len", length), ("join", join),
    ("alt", alternate), ("boom", examine)]

/-- Add and subtract the data in turn, beginning with `positive`. -/
def alternateFrom (positive : Bool) (total : Datum) : List Datum → Except Fault Datum
  | [] => .ok total
  | datum :: data => do
      alternateFrom (!positive) (← if positive then total.add datum else total.sub datum) data

/-- The value of a function of a list. -/
def apply [Platform] (function : Reduction) (data : List Datum) : Except Fault Datum :=
  match function with
  | sum => data.foldlM Datum.add (Datum.int 0)
  | product => data.foldlM Datum.mul (Datum.int 1)
  | list => .ok (.ofList data)
  | length => .ok (.int data.length)
  | join => Datum.joined data
  | alternate => alternateFrom true (Datum.int 0) data
  | examine => Datum.refuseNegatives data

end Reduction

/-- What a name stands for where a function of one argument is expected. -/
def Unary.named [Platform] (name : String) : Except Fault (Datum → Except Fault Datum) :=
  match Unary.table.lookup name, Reduction.table.lookup name, Binary.table.lookup name with
  | some function, _, _ => .ok function.apply
  | none, some .list, _ => .ok .ok
  | none, some function, _ => .ok fun datum =>
      match datum.items? with
      | some items => function.apply items
      | none => .error .wrongType
  | none, none, some _ => .ok fun _ => .error .wrongType
  | none, none, none => .error (.unbound name)

/-- What a name stands for where a function of two arguments is expected. -/
def Binary.named [Platform] (name : String) : Except Fault (Datum → Datum → Except Fault Datum) :=
  match Binary.table.lookup name, Unary.table.lookup name, Reduction.table.lookup name with
  | some function, _, _ => .ok function.apply
  | none, none, none => .error (.unbound name)
  | none, _, _ => .ok fun _ _ => .error .wrongType

/-- What a name stands for where a function of a list is expected. -/
def Reduction.named [Platform] (name : String) : Except Fault (List Datum → Except Fault Datum) :=
  match Reduction.table.lookup name, Unary.table.lookup name, Binary.table.lookup name with
  | some function, _, _ => .ok function.apply
  | none, some function, _ => .ok fun data => function.apply (.ofList data)
  | none, none, some _ => .ok fun _ => .error .wrongType
  | none, none, none => .error (.unbound name)

end TensorLogic
