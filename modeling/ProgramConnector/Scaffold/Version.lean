import ProgramConnector.Numeric.Binary64
import ProgramConnector.Text.Lines

/-!
# Versions

A version has three numbers of 64 bits without zeros in front, and may have a pre-release text and a
build text. Two requirements ask for the same version when both name a version behind their signs
and all five parts agree; other requirements have to be the same text.
-/

namespace ProgramConnector.Scaffold

/-- A version. -/
structure Version where
  /-- The first number. -/
  major : Nat
  /-- The second number. -/
  minor : Nat
  /-- The third number. -/
  patch : Nat
  /-- The text behind the hyphen. -/
  preRelease : List Char
  /-- The text behind the plus sign. -/
  build : List Char
deriving DecidableEq

namespace Version

/-- A text cut at the first occurrence of a character: what is before it, and what is behind it if
it occurs. -/
def cutAt (mark : Char) : List Char → List Char × Option (List Char)
  | [] => ([], none)
  | c :: rest =>
    if c == mark then ([], some rest)
    else
      let (before, behind) := cutAt mark rest
      (c :: before, behind)

/-- Whether a text is a list of digits that starts with a zero and goes on. -/
def hasLeadingZero (digits : List Char) : Bool := digits.head? == some '0' && 1 < digits.length

/-- A number of 64 bits without zeros in front. -/
def number? (digits : List Char) : Option Nat :=
  if digits.isEmpty || !digits.all Char.isDigit || hasLeadingZero digits then none
  else
    let value := digits.foldl (fun n c => n * 10 + (c.toNat - 48)) 0
    if value < wordLimit then some value else none

/-- Whether a character may stand in a pre-release or a build text. -/
def isLabelChar (c : Char) : Bool := c.isAlphanum || c == '-'

/-- Whether a text is made of labels with points between them. -/
def areLabels (text : List Char) : Bool :=
  (Text.splitAt '.' text).all fun label => !label.isEmpty && label.all isLabelChar

/-- Whether no label of digits has a zero in front. -/
def areOrdered (text : List Char) : Bool :=
  (Text.splitAt '.' text).all fun label => !(label.all Char.isDigit && hasLeadingZero label)

/-- A pre-release text, which is empty when there is none. -/
def preRelease? : Option (List Char) → Option (List Char)
  | none => some []
  | some text => if areLabels text && areOrdered text then some text else none

/-- A build text, which is empty when there is none. -/
def build? : Option (List Char) → Option (List Char)
  | none => some []
  | some text => if areLabels text then some text else none

/-- The version of a text. -/
def ofText? (text : List Char) : Option Version := do
  let (main, build) := cutAt '+' text
  let (core, preRelease) := cutAt '-' main
  match Text.splitAt '.' core with
  | [major, minor, patch] =>
    return ⟨← number? major, ← number? minor, ← number? patch, ← preRelease? preRelease,
      ← build? build⟩
  | _ => none

/-- Whether a character is a sign in front of the version that a requirement names. -/
def isSign (c : Char) : Bool := c == '^' || c == '~' || c == '=' || c == 'v'

/-- The version that a requirement names. -/
def ofRequirement? (requirement : String) : Option Version :=
  ofText? (requirement.toList.dropWhile isSign)

end Version

/-- Whether two requirements ask for different versions. -/
def differ (target current : String) : Bool :=
  match Version.ofRequirement? target, Version.ofRequirement? current with
  | some a, some b => a != b
  | _, _ => target != current

end ProgramConnector.Scaffold
