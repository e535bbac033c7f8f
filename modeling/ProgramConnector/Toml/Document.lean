import ProgramConnector.Toml.DateTime
import ProgramConnector.Toml.Number
import ProgramConnector.Toml.Table
import ProgramConnector.Toml.Text

/-!
# TOML documents

A document is a list of lines: keys with values, headers of tables, comments and empty lines.
Reading gives the table of the whole document, or nothing when a line is ill-formed, a key is given
twice or a table is defined twice.
-/

namespace ProgramConnector.Toml

/-- Characters of a key without quotes. -/
def isBareKeyChar (c : Char) : Bool := c.isAlphanum || c == '_' || c == '-'

/-- One step of a key. -/
def simpleKey? (chars : List Char) : Option (String × List Char) :=
  let bare := chars.takeWhile isBareKeyChar
  if bare.isEmpty then (shortText? chars).map fun (text, rest) => (String.ofList text, rest)
  else some (String.ofList bare, chars.drop bare.length)

/-- The steps of a dotted key, with blanks around them. The bound is at least the number of
characters. -/
def key? : Nat → List Char → Option (List String × List Char)
  | 0, _ => none
  | bound + 1, chars => do
    let (step, rest) ← simpleKey? (skipBlanks chars)
    match skipBlanks rest with
    | '.' :: rest => do
      let (steps, rest) ← key? bound rest
      return (step :: steps, rest)
    | rest => return ([step], rest)

/-- The characters behind a comment, if one is next; the line break stays. -/
def skipComment? (chars : List Char) : Option (List Char) :=
  match chars with
  | '#' :: rest =>
    let behind := rest.dropWhile isPlain
    if behind.isEmpty || (lineBreak? behind).isSome then some behind else none
  | _ => some chars

/-- The characters behind blanks, comments and line breaks. The bound is at least the number of
characters. -/
def skipFiller? : Nat → List Char → Option (List Char)
  | 0, chars => some chars
  | bound + 1, chars => do
    let rest ← skipComment? (skipBlanks chars)
    match lineBreak? rest with
    | some rest => skipFiller? bound rest
    | none => return rest

/-- The characters behind filler within a list. -/
def skipAround? (chars : List Char) : Option (List Char) := skipFiller? (chars.length + 1) chars

/-- A key with its value, read by `value`. -/
def pair? (value : List Char → Option (SettingValue × List Char)) (chars : List Char) :
    Option ((List String × SettingValue) × List Char) := do
  let (steps, rest) ← key? (chars.length + 1) chars
  match rest with
  | '=' :: rest => do
    let (item, rest) ← value (skipBlanks rest)
    return ((steps, item), skipBlanks rest)
  | _ => none

/-- The entries with one more pair. -/
def addPair? (steps : List String) (value : SettingValue) (entries : Entries) : Option Entries :=
  match steps.reverse with
  | [] => none
  | key :: path => Entries.addDotted? key value path.reverse entries

/-- The elements of a list, after its opening bracket or a comma. The bound is at least the number
of characters. -/
def elements? (value : List Char → Option (SettingValue × List Char)) :
    Nat → List Char → Option (List SettingValue × List Char)
  | 0, _ => none
  | bound + 1, chars => do
    match ← skipAround? chars with
    | ']' :: rest => return ([], rest)
    | start => do
      let (item, rest) ← value start
      match ← skipAround? rest with
      | ',' :: rest => do
        let (items, rest) ← elements? value bound rest
        return (item :: items, rest)
      | ']' :: rest => return ([item], rest)
      | _ => none

/-- The pairs of a table on one line, after its opening brace or a comma. The bound is at least the
number of characters. -/
def inlinePairs? (value : List Char → Option (SettingValue × List Char)) :
    Nat → Entries → List Char → Option (Entries × List Char)
  | 0, _, _ => none
  | bound + 1, entries, chars => do
    let ((steps, item), rest) ← pair? value chars
    let entries ← addPair? steps item entries
    match rest with
    | ',' :: rest => inlinePairs? value bound entries rest
    | '\x7d' :: rest => return (entries, rest)
    | _ => none

/-- A table on one line, after its opening brace. -/
def inlineTable? (value : List Char → Option (SettingValue × List Char)) (chars : List Char) :
    Option (Entries × List Char) :=
  match skipBlanks chars with
  | '\x7d' :: rest => some ([], rest)
  | _ => inlinePairs? value (chars.length + 1) [] chars

/-- The greatest number of containers inside one another. -/
def nestingLimit : Nat := 79

/-- A value with at most `depth` containers inside one another. -/
def value? : Nat → List Char → Option (SettingValue × List Char)
  | depth, chars =>
    match chars, depth with
    | '"' :: _, _ => (quotedText? chars).map fun (text, rest) => (.text (String.ofList text), rest)
    | '\'' :: _, _ => (quotedText? chars).map fun (text, rest) => (.text (String.ofList text), rest)
    | '[' :: rest, depth + 1 =>
      (elements? (value? depth) (rest.length + 1) rest).map fun (items, rest) => (.list items, rest)
    | '\x7b' :: rest, depth + 1 =>
      (inlineTable? (value? depth) rest).map fun (entries, rest) =>
        (.table (settingsOfEntries entries), rest)
    | _, _ =>
      match dateTime? chars with
      | some (text, rest) => some (.text (String.ofList text), rest)
      | none =>
        let word := chars.takeWhile isWordChar
        (word? word).map fun value => (value, chars.drop word.length)

/-- A document that has been read up to some line: its entries, and the table that the next pairs go
to. -/
structure Progress where
  /-- The entries of the whole document. -/
  entries : Entries := []
  /-- The path of the last header. -/
  header : List String := []

/-- The document after the header of a table. -/
def Progress.open? (progress : Progress) (path : List String) : Option Progress :=
  match path.reverse with
  | [] => none
  | key :: above =>
    (Entries.changeAt? (Entries.define? key) above.reverse progress.entries).map fun entries =>
      ⟨entries, path⟩

/-- The document after the header of one more table in a list of tables. -/
def Progress.openNext? (progress : Progress) (path : List String) : Option Progress :=
  match path.reverse with
  | [] => none
  | key :: above =>
    (Entries.changeAt? (Entries.append? key) above.reverse progress.entries).map fun entries =>
      ⟨entries, path⟩

/-- The document after a pair. -/
def Progress.add? (progress : Progress) (steps : List String) (value : SettingValue) :
    Option Progress :=
  (Entries.changeAt? (addPair? steps value) progress.header progress.entries).map fun entries =>
    { progress with entries := entries }

/-- What a line says, with the rest of the line behind it. -/
def lineContent? (progress : Progress) (chars : List Char) : Option (Progress × List Char) :=
  match chars with
  | '[' :: '[' :: rest => do
    let (path, rest) ← key? (rest.length + 1) rest
    match rest with
    | ']' :: ']' :: rest => return (← progress.openNext? path, rest)
    | _ => none
  | '[' :: rest => do
    let (path, rest) ← key? (rest.length + 1) rest
    match rest with
    | ']' :: rest => return (← progress.open? path, rest)
    | _ => none
  | _ => do
    let ((steps, value), rest) ← pair? (value? nestingLimit) chars
    return (← progress.add? steps value, rest)

/-- Whether a line says nothing from here on. -/
def isLineEnd (chars : List Char) : Bool :=
  match chars with
  | [] => true
  | c :: _ => c == '#' || (lineBreak? chars).isSome

/-- The lines of a document. The bound is greater than the number of characters. -/
def lines? : Nat → Progress → List Char → Option Progress
  | 0, _, _ => none
  | bound + 1, progress, chars => do
    let start := skipBlanks chars
    let (progress, rest) ←
      if isLineEnd start then some (progress, start) else lineContent? progress start
    let rest ← skipComment? (skipBlanks rest)
    match lineBreak? rest with
    | some rest => lines? bound progress rest
    | none => if rest.isEmpty then return progress else none

/-- The table of a document. -/
def ofText? (source : String) : Option (List (String × SettingValue)) :=
  (lines? (source.length + 1) {} source.toList).map fun progress =>
    settingsOfEntries progress.entries

end ProgramConnector.Toml
