import ProgramConnector.Naming.Words

/-!
# Identifiers of a program

The function of a program is named by its title in camel case. Its two types are named in Pascal
case after the function, which is split into words once more.
-/

namespace ProgramConnector.Naming

open Text

/-- A word with its first character in uppercase and the others in lowercase. -/
def capitalize (word : List Char) : List Char := upperFirst (lower word)

/-- The words of a text run together: the first in lowercase, each later one capitalized. -/
def camelChars (text : List Char) : List Char :=
  match words text with
  | [] => []
  | first :: rest => lower first ++ rest.flatMap capitalize

/-- A text in camel case. -/
def camelCase (text : String) : String := String.ofList (camelChars text.toList)

/-- A text in Pascal case. -/
def pascalCase (text : String) : String := String.ofList (upperFirst (camelChars text.toList))

/-- The name of the function for a title. -/
def functionName (title : String) : String := camelCase title

end Naming

/-- The names derived from the title of a program. -/
structure DerivedNames where
  /-- The function. -/
  function : String
  /-- The type of its input. -/
  inputType : String
  /-- The type of its output. -/
  outputType : String
deriving DecidableEq

/-- The names for a title. -/
def DerivedNames.ofTitle (title : String) : DerivedNames :=
  let function := Naming.functionName title
  ⟨function, Naming.pascalCase (function ++ "Input"), Naming.pascalCase (function ++ "Output")⟩

end ProgramConnector
