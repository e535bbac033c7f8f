import ProgramConnector.Json.Basic
import ProgramConnector.Text.Lines

/-!
# Pointers into documents

A pointer is a text of steps, each behind a slash. In a step `~1` stands for a slash and `~0` for a
tilde. A step names a member of an object, or the place of an element as a number without sign and
without zeros in front.
-/

namespace ProgramConnector

namespace Json

/-- A step without its escapes. -/
def unescapeStep (step : List Char) : List Char :=
  Text.replacePair '~' '0' ['~'] (Text.replacePair '~' '1' ['/'] step)

/-- The place that a step names in an array. -/
def placeOfStep? (step : List Char) : Option Nat :=
  if step.isEmpty || !step.all Char.isDigit then none
  else if step.head? == some '0' && step.length != 1 then none
  else some (step.foldl (fun n c => n * 10 + (c.toNat - 48)) 0)

/-- The value one step further. -/
def step? (value : Json) (step : List Char) : Option Json :=
  match value with
  | .obj members => Members.find? (String.ofList (unescapeStep step)) members
  | .arr elements => (placeOfStep? (unescapeStep step)).bind fun place => elements[place]?
  | _ => none

/-- The steps of a pointer; the empty pointer has none. -/
def stepsOfPointer? (pointer : List Char) : Option (List (List Char)) :=
  match pointer with
  | [] => some []
  | '/' :: rest => some (Text.splitAt '/' rest)
  | _ => none

/-- The value that a pointer leads to. -/
def follow? (value : Json) (pointer : List Char) : Option Json :=
  (stepsOfPointer? pointer).bind fun steps => steps.foldlM step? value

end Json

end ProgramConnector
