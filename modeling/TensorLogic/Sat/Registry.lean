/-
Module: TensorLogic.Sat.Registry
Purpose: Choosing an engine by its name.
Main exports: Registry, Registry.make, Registry.makeFor, Registry.makeForQuestion,
  Registry.setDefault
-/
import TensorLogic.Sat.Backend

namespace TensorLogic

/-- The name of the engine that is used where none is chosen. -/
structure Registry where
  default : String := "z3"
deriving Repr, DecidableEq

namespace Registry

/-- The names of all engines that can be chosen. -/
def known : List String := ["z3", "pycosat"]

/-- The fault of a name that no engine has. -/
def unknown (name : Datum) : Fault := .unknownEngine name known

/-- The name that a datum is, if an engine has it. -/
def find (name : Datum) : Except Fault String :=
  match name with
  | .scalar _ (.str text) => if known.contains text then .ok text else .error (unknown name)
  | _ => .error (unknown name)

/-- A fresh back-end with the engine of a name, or with the default one if no name is given. -/
def make (registry : Registry) (name : Datum) : Except Fault Backend := do
  let chosen ← match name with
    | .scalar _ .null => pure registry.default
    | _ => find name
  if chosen = Engine.standard.name then .ok { engine := .standard }
  else .error (.missingEngine chosen)

/-- A fresh back-end for a solver, which asks for a name or for nothing. -/
def makeFor (registry : Registry) (name : Datum) : Except Fault Backend :=
  match name with
  | .scalar _ .null | .scalar _ (.str _) => registry.make name
  | _ => .error .wrongType

/-- A fresh back-end for a single question.  Anything but a name or nothing is taken for a back-end, of
which it is asked in vain to discard its formula. -/
def makeForQuestion (registry : Registry) (name : Datum) : Except Fault Backend :=
  match name with
  | .scalar _ .null | .scalar _ (.str _) => registry.make name
  | other => .error (.missingMember other.kind "reset")

/-- Choose the engine that is used by default. -/
def setDefault (name : Datum) : Act Registry Unit := do
  let chosen ← find name
  set ({ default := chosen } : Registry)

end Registry

end TensorLogic
