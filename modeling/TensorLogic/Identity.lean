/-
Module: TensorLogic.Identity
Purpose: What tells an object from all others, however equal they are.
Main exports: Site, Site.parts, Site.operand, Mark, Mark.same
-/

namespace TensorLogic

/-!
Two lists may be equal and yet not be one object.  An object is told from all others by the site at which it
came into being: a path, from an occasion that does not come twice, through the parts of what was made then.
Its mark holds the site.  An object that was just made has no mark yet, and until it gets one it is the same
as no other.
-/

/-- Where an object came into being: the steps of a path, the last one first. -/
abbrev Site := List Nat

namespace Site

/-- The site below which the parts of what is made at a site are made. -/
def parts (site : Site) : Site := 0 :: site

/-- The site at which an operand of what is made at a site is made. -/
def operand (site : Site) (number : Nat) : Site := (number + 1) :: site

end Site

/-- What an object has to be recognised by, if it has it already. -/
abbrev Mark := Option Site

/-- Whether two marks are those of one object. -/
def Mark.same : Mark → Mark → Bool
  | some left, some right => left == right
  | _, _ => false

/-- Without a mark an object is not even recognised as itself. -/
example : Mark.same (some [1]) (some [1]) = true ∧ Mark.same none none = false := by decide

end TensorLogic
