import ProgramConnector.Text.Lines

/-!
# Documentation comments

A comment has one line per line of its text. White space at the ends of lines is dropped, and the
sequence that would close the comment is broken by a backslash.
-/

namespace ProgramConnector.TypeScript

open Text

/-- The lines of a text that may stand inside a comment. -/
def commentLines (text : String) : List (List Char) :=
  (lines (replacePair '*' '/' ['*', '\\', '/'] text.toList)).map trimEnd

/-- A line inside a comment. -/
def commentLine (pad : String) (line : List Char) : String :=
  if line.isEmpty then pad ++ " *\n" else pad ++ " * " ++ String.ofList line ++ "\n"

/-- A comment of the given lines. -/
def commentBlock (pad : String) (lines : List (List Char)) : String :=
  pad ++ "/**\n" ++ String.join (lines.map (commentLine pad)) ++ pad ++ " */\n"

/-- A text as a comment. -/
def docComment (text pad : String) : String := commentBlock pad (commentLines text)

end ProgramConnector.TypeScript
