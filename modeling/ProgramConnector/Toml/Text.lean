import ProgramConnector.Json.Reader

/-!
# Texts in TOML

The four kinds of quoted text. Basic texts have escapes, literal texts have none, and both come on
one line or between three quotes on many lines. A line break inside a text is a line feed, and one
right behind the opening quotes does not count.
-/

namespace ProgramConnector.Toml

/-- Blank characters within a line. -/
def isBlank (c : Char) : Bool := c == ' ' || c == '\t'

/-- The characters behind blanks. -/
def skipBlanks (chars : List Char) : List Char := chars.dropWhile isBlank

/-- The characters behind a line break, if one is next. -/
def lineBreak? : List Char → Option (List Char)
  | '\n' :: rest => some rest
  | '\r' :: '\n' :: rest => some rest
  | _ => none

/-- A character that may stand in a text or a comment as it is. -/
def isPlain (c : Char) : Bool := c == '\t' || (32 ≤ c.toNat && c.toNat != 127)

/-- The character of a code point, unless it is half of a surrogate pair or too large. -/
def charOfCode? (n : Nat) : Option Char := if n.isValidChar then some (Char.ofNat n) else none

/-- The value of hexadecimal digits. -/
def hexCode? (digits : List Char) : Option Nat :=
  digits.foldlM (fun n c => (Json.hexValue? c).map fun d => n * 16 + d) 0

/-- An escape by code point with the given number of digits. -/
def codeEscape? (digits : Nat) (chars : List Char) : Option (Char × List Char) := do
  let code := chars.take digits
  if code.length < digits then none
  else return (← charOfCode? (← hexCode? code), chars.drop digits)

/-- An escape, after its backslash. -/
def escape? : List Char → Option (Char × List Char)
  | 'b' :: rest => some ('\x08', rest)
  | 't' :: rest => some ('\t', rest)
  | 'n' :: rest => some ('\n', rest)
  | 'f' :: rest => some ('\x0c', rest)
  | 'r' :: rest => some ('\r', rest)
  | '"' :: rest => some ('"', rest)
  | '\\' :: rest => some ('\\', rest)
  | 'u' :: rest => codeEscape? 4 rest
  | 'U' :: rest => codeEscape? 8 rest
  | _ => none

/-- A character put before the text that follows it. -/
def prepend (c : Char) (reading : Option (List Char × List Char)) :
    Option (List Char × List Char) :=
  reading.map fun (text, rest) => (c :: text, rest)

/-- A basic text on one line, after its opening quote. The bound is at least the number of
characters. -/
def basicText : Nat → List Char → Option (List Char × List Char)
  | 0, _ => none
  | _ + 1, [] => none
  | bound + 1, c :: rest =>
    if c == '"' then some ([], rest)
    else if c == '\\' then do
      let (d, rest) ← escape? rest
      prepend d (basicText bound rest)
    else if isPlain c then prepend c (basicText bound rest)
    else none

/-- A literal text on one line, after its opening quote. -/
def literalText : List Char → Option (List Char × List Char)
  | [] => none
  | c :: rest =>
    if c == '\'' then some ([], rest)
    else if isPlain c then prepend c (literalText rest)
    else none

/-- The end of a text on many lines, at its first quote: three quotes close it, and up to two more
before them belong to it. -/
def closing? (quote : Char) (chars : List Char) : Option (List Char × List Char) :=
  let quotes := chars.takeWhile (· == quote)
  if quotes.length < 3 || 5 < quotes.length then none
  else some (quotes.drop 3, chars.drop quotes.length)

/-- The characters behind a backslash at the end of a line: all white space up to the next character
is passed over. The bound is at least the number of characters. -/
def skipLines : Nat → List Char → List Char
  | 0, chars => chars
  | bound + 1, chars =>
    match lineBreak? (skipBlanks chars) with
    | some rest => skipLines bound rest
    | none => skipBlanks chars

/-- A text on many lines, after its opening quotes. With `escapes` it is a basic text. The bound is
at least the number of characters. -/
def longText (quote : Char) (escapes : Bool) : Nat → List Char → Option (List Char × List Char)
  | 0, _ => none
  | bound + 1, chars =>
    match lineBreak? chars with
    | some rest => prepend '\n' (longText quote escapes bound rest)
    | none =>
      match chars with
      | [] => none
      | c :: rest =>
        if c == quote then
          if 3 ≤ (chars.takeWhile (· == quote)).length then closing? quote chars
          else prepend c (longText quote escapes bound rest)
        else if escapes && c == '\\' then
          if (lineBreak? (skipBlanks rest)).isSome then
            longText quote escapes bound (skipLines rest.length rest)
          else do
            let (d, rest) ← escape? rest
            prepend d (longText quote escapes bound rest)
        else if isPlain c then prepend c (longText quote escapes bound rest)
        else none

/-- A text on many lines, after its opening quotes and a line break right behind them. -/
def longTextStart (quote : Char) (escapes : Bool) (chars : List Char) :
    Option (List Char × List Char) :=
  let start := (lineBreak? chars).getD chars
  longText quote escapes (start.length + 1) start

/-- A quoted text on one line. -/
def shortText? : List Char → Option (List Char × List Char)
  | '"' :: rest => basicText (rest.length + 1) rest
  | '\'' :: rest => literalText rest
  | _ => none

/-- A quoted text of any kind. -/
def quotedText? : List Char → Option (List Char × List Char)
  | '"' :: '"' :: '"' :: rest => longTextStart '"' true rest
  | '\'' :: '\'' :: '\'' :: rest => longTextStart '\'' false rest
  | chars => shortText? chars

end ProgramConnector.Toml
