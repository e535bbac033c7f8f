/-!
# Sets of code points

A set of code points is stored as the ascending list of the points at which membership changes, so
that a property of the whole code space takes two numbers per range.
-/

namespace ProgramConnector.Text

/-- A set of code points, given by the ascending points at which membership changes. Below the
first point nothing is a member. -/
structure CodePointSet where
  /-- The points at which membership changes. -/
  changes : List Nat

namespace CodePointSet

/-- Membership of `code`, given that the points still to come start from `inside`. -/
def insideAfter (code : Nat) (inside : Bool) : List Nat → Bool
  | [] => inside
  | point :: rest => if code < point then inside else insideAfter code (!inside) rest

/-- Whether a character belongs to the set. -/
def contains (set : CodePointSet) (c : Char) : Bool :=
  insideAfter c.toNat false set.changes

end CodePointSet

end ProgramConnector.Text
