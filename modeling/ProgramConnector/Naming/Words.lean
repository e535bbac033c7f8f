import ProgramConnector.Text.CaseMap

/-!
# Words

Titles are split into words before they become identifiers. Accents and apostrophes are dropped
first. A character that is no letter and no number separates words, and a new word also starts
between letters and numbers, where lowercase turns to uppercase, and at the last capital of a run of
capitals that goes on in lowercase. A number with its ordinal suffix, such as `22nd`, stays one
word.
-/

namespace ProgramConnector.Naming

open Text

/-- Base letters of the code points from `U+0100` to `U+017F`. -/
def latinExtendedA : List String :=
  ["A", "a", "A", "a", "A", "a", "C", "c", "C", "c", "C", "c", "C", "c", "D", "d", "D", "d", "E",
   "e", "E", "e", "E", "e", "E", "e", "E", "e", "G", "g", "G", "g", "G", "g", "G", "g", "H", "h",
   "H", "h", "I", "i", "I", "i", "I", "i", "I", "i", "I", "i", "IJ", "ij", "J", "j", "K", "k",
   "k", "L", "l", "L", "l", "L", "l", "L", "l", "L", "l", "N", "n", "N", "n", "N", "n", "'n",
   "N", "n", "O", "o", "O", "o", "O", "o", "Oe", "oe", "R", "r", "R", "r", "R", "r", "S", "s",
   "S", "s", "S", "s", "S", "s", "T", "t", "T", "t", "T", "t", "U", "u", "U", "u", "U", "u", "U",
   "u", "U", "u", "U", "u", "W", "w", "Y", "y", "Y", "Z", "z", "Z", "z", "Z", "z", "s"]

/-- Base letters of a letter from `U+00C0` to `U+00FF`. -/
def latinBase? (c : Char) : Option String :=
  let n := c.toNat
  if 0xC0 ≤ n && n ≤ 0xC5 then some "A"
  else if n == 0xC6 then some "Ae"
  else if n == 0xC7 then some "C"
  else if 0xC8 ≤ n && n ≤ 0xCB then some "E"
  else if 0xCC ≤ n && n ≤ 0xCF then some "I"
  else if n == 0xD0 then some "D"
  else if n == 0xD1 then some "N"
  else if (0xD2 ≤ n && n ≤ 0xD6) || n == 0xD8 then some "O"
  else if 0xD9 ≤ n && n ≤ 0xDC then some "U"
  else if n == 0xDD then some "Y"
  else if n == 0xDE then some "Th"
  else if n == 0xDF then some "ss"
  else if 0xE0 ≤ n && n ≤ 0xE5 then some "a"
  else if n == 0xE6 then some "ae"
  else if n == 0xE7 then some "c"
  else if 0xE8 ≤ n && n ≤ 0xEB then some "e"
  else if 0xEC ≤ n && n ≤ 0xEF then some "i"
  else if n == 0xF0 then some "d"
  else if n == 0xF1 then some "n"
  else if (0xF2 ≤ n && n ≤ 0xF6) || n == 0xF8 then some "o"
  else if 0xF9 ≤ n && n ≤ 0xFC then some "u"
  else if n == 0xFD || n == 0xFF then some "y"
  else if n == 0xFE then some "th"
  else none

/-- Whether a character is a combining mark of the three blocks that hold accents. -/
def isAccent (c : Char) : Bool :=
  let n := c.toNat
  (0x300 ≤ n && n ≤ 0x36F) || (0xFE20 ≤ n && n ≤ 0xFE2F) || (0x20D0 ≤ n && n ≤ 0x20FF)

/-- A character without its accent. -/
def plainChar (c : Char) : List Char :=
  if isAccent c then []
  else if 0x100 ≤ c.toNat && c.toNat ≤ 0x17F then
    (latinExtendedA[c.toNat - 0x100]?.getD "").toList
  else
    match latinBase? c with
    | some base => base.toList
    | none => [c]

/-- A text without accents: Latin letters become their base letters. -/
def deburr (text : List Char) : List Char := text.flatMap plainChar

/-- An apostrophe, straight or curly. -/
def isApostrophe (c : Char) : Bool := c == '\'' || c == '’'

/-- A letter or digit of ASCII, or an underscore. -/
def isWordChar (c : Char) : Bool := c.isAlphanum || c == '_'

/-- The two letters that make an ordinal of a number with this last digit. -/
def ordinalLetters? (digit : Char) : Option (Char × Char) :=
  if digit == '1' then some ('s', 't')
  else if digit == '2' then some ('n', 'd')
  else if digit == '3' then some ('r', 'd')
  else if digit.isDigit then some ('t', 'h')
  else none

/-- Whether an ordinal suffix may be followed by `after`. A lowercase suffix ends before a break or
an uppercase letter, an uppercase one before a break or a lowercase letter. -/
def endsOrdinal (isUpper : Bool) : List Char → Bool
  | [] => true
  | c :: _ =>
    c == '_' || !isWordChar c || (if isUpper then c.isLower else c.isUpper)

/-- Whether `text` starts with the ordinal suffix of a number that ends in `digit`. -/
def startsOrdinal (digit : Char) (text : List Char) : Bool :=
  match ordinalLetters? digit, text with
  | some (a, b), c :: d :: rest =>
    if c == a && d == b then endsOrdinal false rest
    else if c == a.toUpper && d == b.toUpper then endsOrdinal true rest
    else false
  | _, _ => false

/-- How a word goes on. -/
inductive WordState where
  /-- By the rules of letters and numbers. -/
  | running
  /-- With the last letter of an ordinal suffix. -/
  | inOrdinal
  /-- Not at all: an ordinal suffix is complete. -/
  | closed
deriving DecidableEq

/-- Whether a word may go on from `last` with `c`, before `rest`: the state after `c`, or nothing at
a boundary. -/
def extend? (state : WordState) (last c : Char) (rest : List Char) : Option WordState :=
  match state with
  | .inOrdinal => some .closed
  | .closed => none
  | .running =>
    if isNumeric last && !isNumeric c then
      if startsOrdinal last (c :: rest) then some .inOrdinal else none
    else if isNumeric last != isNumeric c then none
    else if isLowercase last && isUppercase c then none
    else if isUppercase last && isUppercase c && (rest.head?.any isLowercase) then none
    else some .running

/-- A word that is complete, its characters being given last one first. -/
def finished (current : List Char) : List (List Char) :=
  if current.isEmpty then [] else [current.reverse]

/-- The words of a text, given the word that is being read, last character first. -/
def wordsFrom (state : WordState) (current : List Char) : List Char → List (List Char)
  | [] => finished current
  | c :: rest =>
    if isAlphanumeric c then
      match current with
      | [] => wordsFrom .running [c] rest
      | last :: _ =>
        match extend? state last c rest with
        | some next => wordsFrom next (c :: current) rest
        | none => current.reverse :: wordsFrom .running [c] rest
    else finished current ++ wordsFrom .running [] rest

/-- The words of a text. -/
def words (text : List Char) : List (List Char) :=
  wordsFrom .running [] ((deburr text).filter fun c => !isApostrophe c)

end ProgramConnector.Naming
