import ProgramConnector.Json.Basic

/-!
# Printing documents

Documents are printed without spaces, members in order. A text escapes quotes, backslashes and the
characters below the space, and nothing else.
-/

namespace ProgramConnector

namespace Json

/-- The digit of a value below sixteen. -/
def hexDigit (n : Nat) : Char := Nat.digitChar (n % 16)

/-- A character inside a printed text. -/
def escapedChar (c : Char) : List Char :=
  if c == '"' then ['\\', '"']
  else if c == '\\' then ['\\', '\\']
  else if c == '\x08' then ['\\', 'b']
  else if c == '\x0c' then ['\\', 'f']
  else if c == '\n' then ['\\', 'n']
  else if c == '\r' then ['\\', 'r']
  else if c == '\t' then ['\\', 't']
  else if c.toNat < 32 then ['\\', 'u', '0', '0', hexDigit (c.toNat / 16), hexDigit c.toNat]
  else [c]

/-- A text between quotes. -/
def printText (text : List Char) : List Char := '"' :: text.flatMap escapedChar ++ ['"']

/-- A number. -/
def printNumber : Number → List Char
  | .whole (.ofNat n) => Nat.toDigits 10 n
  | .whole (.negSucc n) => '-' :: Nat.toDigits 10 (n + 1)
  | .double value => value.documentText

mutual

/-- A document as text. -/
def print : Json → List Char
  | .null => ['n', 'u', 'l', 'l']
  | .bool true => ['t', 'r', 'u', 'e']
  | .bool false => ['f', 'a', 'l', 's', 'e']
  | .num value => printNumber value
  | .str value => printText value.toList
  | .arr elements => '[' :: printElements elements ++ [']']
  | .obj members => '\x7b' :: printMembers members ++ ['\x7d']

/-- Elements with commas between them. -/
def printElements : List Json → List Char
  | [] => []
  | [value] => print value
  | value :: rest => print value ++ ',' :: printElements rest

/-- Members with commas between them. -/
def printMembers : List (String × Json) → List Char
  | [] => []
  | [(key, value)] => printText key.toList ++ ':' :: print value
  | (key, value) :: rest => printText key.toList ++ ':' :: print value ++ ',' :: printMembers rest

end

/-- A document as text. -/
def toText (value : Json) : String := String.ofList value.print

end Json

end ProgramConnector
