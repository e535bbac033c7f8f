import ProgramConnector.Settings.Value
import ProgramConnector.Text.Lines

/-!
# Settings from variables

A variable whose name starts with `PROGRAMS_CODEGEN__`, in upper or lower case, is a setting: two
underscores divide the steps of its path. Its value is a truth value or a number where it reads as
one, and else a text.

The first key of a path may be followed by keys of tables, with points before them, and by places of
lists in brackets.
-/

namespace ProgramConnector.Settings

/-- What the names of variables with settings start with, in lowercase. -/
def variableStart : List Char := "programs_codegen__".toList

/-- A whole number that 64 bits with a sign hold. -/
def wholeOfText? (text : List Char) : Option Int :=
  let (negative, digits) := Extended.signAndRest text
  if digits.isEmpty || !digits.all Char.isDigit then none
  else signedWhole? negative (Extended.digitsValue digits)

/-- The value of a variable. -/
def valueOfVariable (text : String) : SettingValue :=
  let word := Text.lower text.toList
  if word == ['t', 'r', 'u', 'e'] then .flag true
  else if word == ['f', 'a', 'l', 's', 'e'] then .flag false
  else
    match wholeOfText? text.toList, Extended.ofText? text.toList with
    | some value, _ => .whole value
    | none, some value => .real value
    | none, none => .text text

/-- A character that may stand in a step of a path of keys. -/
def isPathChar (c : Char) : Bool := c.isAlphanum || c == ' ' || c == '_' || c == '-'

/-- A step of a path of keys behind its first key. -/
inductive KeyStep where
  /-- The key of a table. -/
  | key (name : String)
  /-- The place of an element of a list. -/
  | place (index : Nat)
deriving DecidableEq

/-- The place between brackets, after the opening one. A place that counts from the end is the first
one of a list that is not there yet. -/
def place? (chars : List Char) : Option (Nat × List Char) := do
  let start := chars.dropWhile fun c => c == ' ' || c == '\t'
  let negative := start.head? == some '-'
  let signless := if negative then start.drop 1 else start
  let digits := signless.takeWhile Char.isDigit
  if digits.isEmpty then none
  else
    let index ← signedWhole? negative (Extended.digitsValue digits)
    match (signless.drop digits.length).dropWhile fun c => c == ' ' || c == '\t' with
    | ']' :: rest => return (index.toNat, rest)
    | _ => none

/-- The steps behind the first key of a path. The bound is at least the number of characters. -/
def stepsBehind? : Nat → List Char → Option (List KeyStep)
  | _, [] => some []
  | 0, _ :: _ => none
  | bound + 1, c :: rest =>
    if c == '.' then
      let name := rest.takeWhile isPathChar
      if name.isEmpty then none
      else (stepsBehind? bound (rest.drop name.length)).map (.key (String.ofList name) :: ·)
    else if c == '[' then
      (place? rest).bind fun (index, rest) => (stepsBehind? bound rest).map (.place index :: ·)
    else none

/-- The first key and the other steps of a path. A text that is no such path is one key. -/
def pathOfKey (key : List Char) : String × List KeyStep :=
  let first := key.takeWhile isPathChar
  match stepsBehind? key.length (key.drop first.length) with
  | some steps => if first.isEmpty then (String.ofList key, []) else (String.ofList first, steps)
  | none => (String.ofList key, [])

/-- A value under the steps of a path, in tables and lists that hold nothing else. -/
def valueUnder (value : SettingValue) : List KeyStep → SettingValue
  | [] => value
  | .key name :: rest => .table [(name, valueUnder value rest)]
  | .place index :: rest => .list (List.replicate index .null ++ [valueUnder value rest])

/-- The entry of a key that may be a path. -/
def entryOfKey (key : List Char) (value : SettingValue) : String × SettingValue :=
  let (first, steps) := pathOfKey key
  (first, valueUnder value steps)

example : pathOfKey "typescript.tags[2]".toList = ("typescript", [.key "tags", .place 2]) := by
  decide

/-- The setting of a variable, if its name is that of a setting. -/
def entryOfVariable? (name value : String) : Option (String × SettingValue) :=
  let name := Text.lower name.toList
  if variableStart.isPrefixOf name then
    let key := Text.replacePair '_' '_' ['.'] (name.drop variableStart.length)
    some (entryOfKey key (valueOfVariable value))
  else none

/-- The settings of an environment. -/
def entriesOfVariables (environment : List (String × String)) : List (String × SettingValue) :=
  environment.filterMap fun (name, value) => entryOfVariable? name value

end ProgramConnector.Settings
