/-
Module: TensorLogic.Fault
Purpose: Everything that can go wrong, and how it is reported.
Main exports: Fault, Fault.Category, Fault.category, Fault.message?, Fault.report?
-/
import TensorLogic.Datum.Basic
import TensorLogic.Number.Size
import TensorLogic.Text.Address

namespace TensorLogic

/-!
A fault is the cause of a failure together with the values that a report of it names.  The wording
stands in one place, `Fault.message?`, and the kind of a fault in `Fault.category`; no operation
looks at either.  What a user reads is `Fault.report?`, the message without addresses.
-/

/-- The causes of failure. -/
inductive Fault where
  /-- An argument is of the wrong type. -/
  | wrongType
  /-- An object of some kind was asked for something that it does not have. -/
  | missingMember (kind member : String)
  /-- A problem was built without a predicate. -/
  | noPredicate
  /-- A literal was to be made without a solver. -/
  | forgedLiteral
  /-- A literal was expected, and something else was found. -/
  | notLiteral (found : String)
  /-- A dimension is negative. -/
  | negativeDimension (shape : List Whole)
  /-- The number of elements is not the size of the shape. -/
  | elementCount (expected found : Nat)
  /-- The rows of a matrix differ in length. -/
  | raggedRows
  /-- Nothing is to be stacked, and no shape is given. -/
  | emptyStack
  /-- A tensor in a stack has another shape than the stack asks for. -/
  | stackShape (found expected : List Count)
  /-- Two tensors do not fit together along their last axes. -/
  | concatShapes (left right : List Count)
  /-- An index has the wrong number of coordinates. -/
  | indexLength (index : List Datum) (shape : List Count)
  /-- A coordinate lies outside its axis. -/
  | indexRange (index : List Datum) (shape : List Count)
  /-- A coordinate is a number with a fraction. -/
  | indexFraction
  /-- A position does not fit into a machine word. -/
  | hugePosition
  /-- An axis number lies outside the shape. -/
  | axisRange
  /-- A position lies outside a list. -/
  | listRange
  /-- A position lies outside a text. -/
  | textRange
  /-- A tensor was to be changed that is not being edited. -/
  | notEditing
  /-- A tensor is to be edited that is being edited already. -/
  | alreadyEditing
  /-- A tensor does not have exactly one element. -/
  | notSingle (shape : List Count)
  /-- An axis map does not have one entry for each axis. -/
  | axisMapLength (axes : List Whole) (order : Nat)
  /-- An axis map leads outside the new shape. -/
  | axisMapRange (axes : List Whole) (shape : List Count)
  /-- An axis is mapped to an axis of another dimension. -/
  | axisMapDimension (axis : Nat) (dimension : Count) (target : Whole) (found : Count)
  /-- An axis map does not cover exactly the axes of the tensor. -/
  | axisMapCover (axes : List Whole) (order : Nat)
  /-- There are more axes than an array can have. -/
  | tooManyAxes (limit found : Nat)
  /-- An array is to be gathered along more axes than that can be done for. -/
  | tooManyGathered (limit found : Nat)
  /-- A dimension does not fit into a machine word. -/
  | hugeDimension
  /-- A range of coordinates does not fit into a machine word. -/
  | hugeRange
  /-- The number of elements of a shape does not fit into a machine word when the elements of a tensor are
  laid out in it. -/
  | layoutOverflow (size : Nat) (shape : List Count)
  /-- The number of elements of a shape does not fit into a machine word when elements are repeated over
  it. -/
  | broadcastOverflow
  /-- The storage of an array would not fit into an address space. -/
  | storageOverflow
  /-- A number of elements does not fit into a machine word. -/
  | hugeSize
  /-- A number does not fit into a machine word. -/
  | hugeWord
  /-- The number of coordinates on an axis does not fit into a machine word. -/
  | hugeAxis
  /-- The number of characters of a text does not fit into a machine word. -/
  | longText
  /-- There is no memory for so many elements. -/
  | outOfMemory
  /-- There is no memory for an array of so many elements of some kind. -/
  | arrayMemory (count : Nat) (kind : String)
  /-- An infinite number is to be converted to a whole one. -/
  | infiniteWhole
  /-- What is not a number is to be converted to a whole one. -/
  | undefinedWhole
  /-- Two tensors differ in shape. -/
  | shapeMismatch (left right : List Count)
  /-- More axes than there are, or fewer than none, are to be folded. -/
  | foldCount (count : Whole) (order : Nat)
  /-- A tensor without axes cannot be split along its last one. -/
  | unstackScalar
  /-- The two constants of an algebra are the same element. -/
  | equalConstants
  /-- Equality was asked of no elements at all. -/
  | emptyEquality
  /-- Sequences of different lengths cannot be compared. -/
  | lengthsDiffer (left right : Nat)
  /-- The result of a contraction was taken already. -/
  | contractionConsumed
  /-- The number of labels is not the number of axes. -/
  | labelCount (expected found : Nat)
  /-- A label occurs twice on one tensor. -/
  | labelsRepeated (labels : String)
  /-- No tensor was added to a contraction. -/
  | contractionEmpty
  /-- A label is asked for twice. -/
  | outputRepeated (labels : String)
  /-- A label is asked for that no tensor mentions. -/
  | outputUnknown (label : String)
  /-- A label is used with two dimensions. -/
  | labelDimensions (label : String) (first second : Count)
  /-- A literal of another formula was used. -/
  | foreignLiteral (code : Int)
  /-- A literal was to be decoded without a model. -/
  | noDecoding
  /-- A literal is zero or its variable was not allocated. -/
  | invalidLiteral (literal : Datum) (numVars : Nat)
  /-- A value was asked of a model that was not found. -/
  | noModel
  /-- The search ended without a decision. -/
  | undecided
  /-- A solution was found on which the predicate does not hold. -/
  | refutedSolution
  /-- No search engine has this name. -/
  | unknownEngine (name : Datum) (known : List String)
  /-- The engine with this name is not part of this library. -/
  | missingEngine (name : String)
  /-- Clauses of no literals cannot be drawn. -/
  | clauseSize
  /-- There are fewer variables than literals in a clause. -/
  | tooFewVariables (size : Datum)
  /-- No clauses are to be drawn. -/
  | clauseNumber
  /-- The number of choices of so many variables is not computed. -/
  | hugeChoice
  /-- More clauses are to be drawn than there are. -/
  | tooManyClauses (bound : Nat)
  /-- A source of random draws is to be made from a negative number. -/
  | negativeSeed
  /-- The source of random draws is used up. -/
  | drawsExhausted
  /-- The text does not begin with the problem line. -/
  | noHeader
  /-- A token is no numeral. -/
  | notNumeral (token : String)
  /-- A numeral has too many digits. -/
  | numeralLength (digits : Nat)
  /-- The last clause is not closed. -/
  | openClause
  /-- There are more or fewer clauses than the problem line says. -/
  | clauseTotal
  /-- A clause holds a zero or a variable above the number of variables. -/
  | invalidVariables
  /-- The tensors given to a predicate do not have the shapes it asks for. -/
  | solutionShapes (expected found : List (List Count))
  /-- A function of elements met a negative number. -/
  | negativeElement (element : Datum)
  /-- An editing block was left early. -/
  | aborted
  /-- A name is not bound. -/
  | unbound (name : String)
  /-- A record has no part under a key. -/
  | missingKey (key : Datum)
deriving Repr

namespace Fault

/-- The kinds of failure that callers tell apart. -/
inductive Category where
  /-- An argument of the wrong type. -/
  | type
  /-- An object that does not have what it is asked for. -/
  | member
  /-- An argument with a value that the operation does not accept. -/
  | value
  /-- An index outside its range. -/
  | index
  /-- An operation that the present state does not allow. -/
  | state
  /-- A key that is not bound. -/
  | key
  /-- A source without further items. -/
  | lookup
  /-- A number that does not fit into a machine word. -/
  | overflow
  /-- A want of memory. -/
  | memory
  /-- An internal promise that was broken. -/
  | assertion
deriving Repr, DecidableEq

/-- The kind of each fault. -/
def category : Fault → Category
  | wrongType | noPredicate | forgedLiteral | notLiteral _ => .type
  | missingMember .. => .member
  | indexLength .. | indexRange .. | indexFraction | hugePosition | axisRange | listRange | textRange
  | tooManyGathered .. => .index
  | notEditing | alreadyEditing | contractionConsumed | contractionEmpty | noDecoding | noModel
  | undecided => .state
  | refutedSolution => .assertion
  | drawsExhausted | missingEngine _ => .lookup
  | aborted | unbound _ | missingKey _ => .key
  | hugeSize | hugeWord | hugeAxis | hugeChoice | longText | infiniteWhole => .overflow
  | outOfMemory | arrayMemory .. => .memory
  | _ => .value

/-- A token is quoted in a report by at most this many characters. -/
def tokenLimit : Nat := 200

/-- The number of bytes that one element takes up in an array. -/
def elementBytes : Nat := 8

/-- A number that has too many digits is not written, which is reported instead of everything else. -/
def unlessLong (number : Int) (message : String) : String :=
  if Text.digitLimit < (Nat.toDigits 10 number.natAbs).length then
    s!"Exceeds the limit ({Text.digitLimit} digits) for integer string conversion; "
      ++ "use sys.set_int_max_str_digits() to increase the limit"
  else message

/-- The wording of each fault.  A wrong type has none of its own. -/
def message? : Fault → Option String
  | wrongType => none
  | missingMember kind member =>
      some ("'" ++ kind ++ "' object has no attribute '" ++ member ++ "'")
  | noPredicate => some "Pass a predicate to the constructor, or override compute()."
  | forgedLiteral => some "Literals are allocated by SatSolver.variable()."
  | notLiteral found => some s!"Expected a literal, found {found}."
  | negativeDimension shape =>
      some s!"Dimensions must be non-negative, found shape = {wholesText shape}."
  | elementCount expected found =>
      some (unlessLong expected s!"Expected {expected} elements, found {found}.")
  | raggedRows => some "All rows of a matrix must have the same length."
  | emptyStack => some "The shape is required to stack an empty list."
  | stackShape found expected =>
      some s!"Cannot stack tensor of shape {countsText found} with shape = {countsText expected}."
  | concatShapes left right =>
      some s!"Cannot concatenate shapes {countsText left} and {countsText right}."
  | indexLength index shape =>
      some s!"Index {Datum.tupleText index} is invalid for shape {countsText shape}."
  | indexRange index shape =>
      some s!"Index {Datum.tupleText index} is out of range for {countsText shape}."
  | indexFraction =>
      some ("only integers, slices (`:`), ellipsis (`...`), numpy.newaxis (`None`) and integer or "
        ++ "boolean arrays are valid indices")
  | hugePosition => some "cannot fit 'int' into an index-sized integer"
  | axisRange => some "tuple index out of range"
  | listRange => some "list index out of range"
  | textRange => some "string index out of range"
  | notEditing => some "Tensors can only be modified within editing()."
  | alreadyEditing => some "Tensor is already being edited."
  | notSingle shape => some s!"Tensor of shape {countsText shape} is not a single value."
  | axisMapLength axes order =>
      some s!"Axis map {wholesText axes} has wrong length for order {order}."
  | axisMapRange axes shape =>
      some s!"Axis map {wholesText axes} is invalid for shape = {countsText shape}."
  | axisMapDimension axis dimension target found =>
      some (s!"Axis {axis} of dimension {dimension.text} cannot be mapped"
        ++ s!" to axis {target.text} of dimension {found.text}.")
  | axisMapCover axes order =>
      some s!"Axis map {wholesText axes} must cover all {order} axes of the tensor."
  | tooManyAxes limit found =>
      some s!"maximum supported dimension for an ndarray is currently {limit}, found {found}"
  | tooManyGathered limit found =>
      some (s!"when no subspace is given, the number of index arrays cannot be above {limit}, but "
        ++ s!"{found} index arrays found")
  | hugeDimension => some "Maximum allowed dimension exceeded"
  | hugeRange => some "Maximum allowed size exceeded"
  | layoutOverflow size shape =>
      some (s!"cannot reshape array of size {size} into shape "
        ++ Text.denselyTupled (shape.map Count.text))
  | broadcastOverflow => some "iterator is too large"
  | storageOverflow =>
      some ("array is too big; `arr.size * arr.dtype.itemsize` is larger than the maximum possible "
        ++ "size.")
  | hugeSize => some "cannot fit 'int' into an index-sized integer"
  | hugeWord => some "Python int too large to convert to C long"
  | hugeAxis => some "Python int too large to convert to C ssize_t"
  | longText => some "repeated string is too long"
  | outOfMemory => some ""
  | arrayMemory count kind =>
      some (s!"Unable to allocate {sizeText (elementBytes * count)} for an array with shape"
        ++ s!" {Text.tupled [toString count]} and data type {kind}")
  | infiniteWhole => some "cannot convert float infinity to integer"
  | undefinedWhole => some "cannot convert float NaN to integer"
  | shapeMismatch left right => some s!"Shape mismatch: {countsText left} and {countsText right}."
  | foldCount count order => some s!"Cannot fold {count.text} axes of a tensor of order {order}."
  | unstackScalar => some "Cannot unstack a tensor of order zero."
  | equalConstants => some "The true and false values must be distinct."
  | emptyEquality => some "Equality of an empty sequence is undefined."
  | lengthsDiffer left right => some s!"Cannot compare sequences of lengths {left} and {right}."
  | contractionConsumed => some "Contraction has already been consumed by get()."
  | labelCount expected found =>
      some s!"Expected {expected} labels for tensor, found {found}."
  | labelsRepeated labels => some s!"Labels {labels} of a tensor cannot be repeated."
  | contractionEmpty => some "No tensor was added to the contraction."
  | outputRepeated labels => some s!"Output labels {labels} cannot be repeated."
  | outputUnknown label => some s!"Output label {label} is unknown."
  | labelDimensions label first second =>
      some s!"Label {label} is used with dimensions {first.text} and {second.text}."
  | foreignLiteral code => some s!"Literal <Lit {code}> does not belong to the current formula."
  | noDecoding => some "Literals can only be decoded after a successful solve."
  | invalidLiteral literal numVars =>
      some s!"Invalid literal {literal.plainText} for {numVars} variables."
  | noModel => some "No model available, the formula was not solved."
  | undecided => some "undecided"
  | refutedSolution => some ""
  | unknownEngine name known =>
      some (s!"Unknown SAT back-end {name.text}, expected one of "
        ++ s!"{Datum.tupleText (known.map Datum.str)}.")
  | missingEngine name => some s!"The SAT back-end {Text.quoted name} is not installed."
  | clauseSize => some "Clause size 'k' must be positive."
  | tooFewVariables size => some s!"Number of variables 'n' must be at least k = {size.text}."
  | clauseNumber => some "Number of clauses 'm' must be positive."
  | hugeChoice => some s!"min(n - k, k) must not exceed {wordLimit - 1}"
  | tooManyClauses bound =>
      some (unlessLong bound s!"Number of clauses 'm' cannot exceed comb(n, k)*2**k = {bound}")
  | negativeSeed => some "expected non-negative integer"
  | drawsExhausted => some "no draws left"
  | noHeader => some "DIMACS code must start with 'p cnf <num vars> <num clauses>'."
  | notNumeral token =>
      some ("invalid literal for int() with base 10: "
        ++ String.ofList ((Text.quoted token).toList.take tokenLimit))
  | numeralLength digits =>
      some (s!"Exceeds the limit ({Text.digitLimit} digits) for integer string conversion: value has "
        ++ s!"{digits} digits; use sys.set_int_max_str_digits() to increase the limit")
  | openClause => some "Last clause is not terminated by 0."
  | clauseTotal => some "Number of clauses does not match the specified number."
  | invalidVariables => some "Clauses contain invalid variables."
  | solutionShapes expected found =>
      some (s!"Expected tensors of shapes {Text.tupled (expected.map countsText)},"
        ++ s!" found {Text.tupled (found.map countsText)}.")
  | negativeElement element =>
      some (unlessLong (element.integer?.getD 0) s!"boom {element.plainText}")
  | aborted => some "'abort'"
  | unbound name => some (Text.quoted name)
  | missingKey key => some key.text

/-- The report of a fault: its wording, without the addresses in it. -/
def report? (fault : Fault) : Option String :=
  fault.message?.map fun message => String.ofList (Text.withoutAddresses message.toList)

end Fault

end TensorLogic
