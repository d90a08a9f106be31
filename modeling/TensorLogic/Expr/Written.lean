/-
Module: TensorLogic.Expr.Written
Purpose: Expressions in written form: a keyword, followed by the parts of the expression.
Main exports: Operator, Operator.apply, Operator.table, Reading, Reading.assemble, Expr.ofDatum
-/
import TensorLogic.Expr.Basic

namespace TensorLogic

/-!
A written expression is a list whose first member is a keyword.  What follows are further expressions,
or the data that belong to the keyword, such as shapes and names.  Every datum is read in both ways, and
the keyword before it decides which of them counts.  A datum that is no expression is read as an
operation without a value, so that it fails only when it is evaluated.
-/

/-- An operation whose operands are all evaluated before it is carried out. -/
inductive Operator where
  | neg
  | negTensor
  | liftTensor
  | connective (connective : Connective)
  | connectiveTensor (connective : Connective)
  | aggregate (aggregate : Aggregate)
  | compare (comparison : Comparison)
deriving Repr, DecidableEq

namespace Operator

/-- Every keyword of an operator. -/
def table : List (String × Operator) :=
  [("not_", neg), ("not_tensor", negTensor), ("lift_tensor", liftTensor),
    ("and_", connective .conj), ("or_", connective .disj), ("add", connective .xor),
    ("equ", connective .iff), ("leq", connective .imp),
    ("and_tensor", connectiveTensor .conj), ("or_tensor", connectiveTensor .disj),
    ("add_tensor", connectiveTensor .xor), ("equ_tensor", connectiveTensor .iff),
    ("leq_tensor", connectiveTensor .imp),
    ("all", aggregate .all), ("any", aggregate .any), ("sum", aggregate .parity),
    ("one", aggregate .one), ("many", aggregate .many), ("eqs", aggregate .allEqual),
    ("lex_less", compare .lexLt), ("lex_leq", compare .lexLe)]

/-- An operator with its operands.  There have to be as many as it takes. -/
def apply : Operator → List Expr → Expr
  | neg, [operand] => .neg operand
  | negTensor, [operand] => .negTensor operand
  | liftTensor, [operand] => .liftTensor operand
  | connective operation, [left, right] => .connective operation left right
  | connectiveTensor operation, [left, right] => .connectiveTensor operation left right
  | aggregate operation, [operand] => .aggregate operation operand
  | compare comparison, [left, right] => .compare comparison left right
  | _, operands => .misapplied operands

end Operator

/-- The keywords of the operations along the leading axes of a tensor. -/
def Aggregate.foldTable : List (String × Aggregate) :=
  [("fold_all", .all), ("fold_any", .any), ("fold_sum", .parity), ("fold_one", .one),
    ("fold_many", .many), ("fold_eqs", .allEqual)]

/-- The kind of a contraction by its name. -/
def ContractionKind.ofName (name : String) : ContractionKind :=
  if name = "linear" then .linear else .logical

/-- A datum, the expression that it is written for, and its members, read in the same way. -/
structure Reading where
  datum : Datum
  expression : Expr
  members : List Reading

namespace Reading

/-- What stands where a part of an expression is missing. -/
def missing : Reading := ⟨.null, .misapplied [], []⟩

/-- The word that a part is; anything but a text is none. -/
def word (reading : Reading) : String :=
  match reading.datum with
  | .scalar _ (.str text) => text
  | _ => ""

/-- The expression with a keyword and the parts that follow it. -/
def assemble (keyword : String) (parts : List Reading) : Expr :=
  match keyword, parts with
  | "T", _ => .top
  | "F", _ => .bot
  | "lift", given :: _ => .lift given.datum
  | "val", given :: _ => .datum given.datum
  | "leaf", name :: _ => .leaf name.word
  | "ref", name :: _ => .ref name.word
  | "let", name :: value :: body :: _ => .letIn name.word value.expression body.expression
  | "list", items => .list (items.map expression)
  | "bools", shape :: values :: _ => .data shape.datum values.datum
  | "tensor", shape :: elems :: _ => .tensor shape.datum (elems.members.map expression)
  | "const", shape :: value :: _ => .constant shape.datum value.expression
  | "cell", source :: index :: _ => .cell source.expression index.datum
  | "nth", source :: index :: _ => .cell source.expression index.datum
  | "item", source :: _ => .item source.expression
  | "reshape", source :: shape :: axes :: _ => .reshape source.expression shape.datum axes.datum
  | "diagonal", source :: axes :: default :: _ =>
      .diagonal source.expression axes.datum default.expression
  | "unstack", source :: _ => .unstack source.expression
  | "stack", [sources] => .stack sources.expression none
  | "stack", [sources, shape] => .stack sources.expression (some shape.datum)
  | "stack", sources :: _ => .misapplied [sources.expression]
  | "concat", left :: right :: _ => .concat left.expression right.expression
  | "contract", kind :: terms :: output :: _ =>
      .contract (.ofName kind.word)
        (terms.members.map fun term => (term.members.getD 0 missing).expression)
        (terms.members.map fun term => (term.members.getD 1 missing).datum) output.datum
  | keyword, operands =>
      match Aggregate.foldTable.lookup keyword, operands with
      | some operation, [source] => .fold operation source.expression none
      | some operation, [source, count] => .fold operation source.expression (some count.datum)
      | some _, source :: _ => .misapplied [source.expression]
      | _, _ =>
          match Operator.table.lookup keyword with
          | some operator => operator.apply (operands.map expression)
          | none => .misapplied []

/-- The expression with the given members, the first of which is its keyword. -/
def ofMembers : List Reading → Expr
  | [] => .misapplied []
  | keyword :: parts => assemble keyword.word parts

/-- A text of one character. -/
def ofCharacter (character : String) : Reading := ⟨.str character, assemble character [], []⟩

/-- A scalar.  The members of a text are its characters. -/
def ofScalar (mark : Mark) : Scalar → Reading
  | .str text =>
      let members := (Text.characters text).map ofCharacter
      ⟨.scalar mark (.str text), ofMembers members, members⟩
  | value => ⟨.scalar mark value, .misapplied [], []⟩

mutual

/-- A datum with all of its members. -/
def ofDatum : Datum → Reading
  | .scalar mark value => ofScalar mark value
  | .list mark items =>
      let members := ofData items
      ⟨.list mark items, ofMembers members, members⟩

/-- Data with all of their members. -/
def ofData : List Datum → List Reading
  | [] => []
  | first :: rest => ofDatum first :: ofData rest

end

end Reading

/-- The expression that a datum is written for. -/
def Expr.ofDatum (datum : Datum) : Expr := (Reading.ofDatum datum).expression

/-- The keyword decides whether what follows is an expression or a datum, and how many operands there
are to be. -/
example :
    Expr.ofDatum (.ofList [.str "not_", .ofList [.str "T"]]) = .neg .top ∧
      Expr.ofDatum (.ofList [.str "val", .ofList [.str "T"]]) = .datum (.ofList [.str "T"]) ∧
      Expr.ofDatum (.ofList [.str "and_", .str "F"]) = .misapplied [.bot] := by
  refine ⟨?_, ?_, ?_⟩ <;> rfl

end TensorLogic
