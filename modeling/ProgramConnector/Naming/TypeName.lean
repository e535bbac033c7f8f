import ProgramConnector.Text.CaseMap

/-!
# Names of declared types

A title becomes the name of a type in three passes: what cannot stand in an identifier becomes a
break, an underscore before a lowercase letter is joined with it, and breaks are dropped while the
letters behind them, and behind digits and dollar signs, become capitals.
-/

namespace ProgramConnector.Naming

open Text

/-- A character that may stand in an identifier. -/
def isIdentifierChar (c : Char) : Bool := c.isAlphanum || c == '_' || c == '$'

/-- A character that may start an identifier. -/
def isIdentifierStart (c : Char) : Bool := c.isAlpha || c == '_' || c == '$'

/-- Whether a text is an identifier as it stands. -/
def isIdentifier : List Char → Bool
  | [] => false
  | c :: rest => isIdentifierStart c && rest.all isIdentifierChar

/-- A break for every character that cannot stand in an identifier. -/
def spaced (text : List Char) : List Char :=
  text.map fun c => if isIdentifierChar c then c else ' '

/-- The first pass. White space at the start and one character after it that cannot start an
identifier become a single break. -/
def withBreaks (title : List Char) : List Char :=
  match title.dropWhile isBlank with
  | [] => if title.isEmpty then [] else [' ']
  | c :: rest =>
    if !isIdentifierStart c then ' ' :: spaced rest
    else if title.head?.any isBlank then ' ' :: spaced (c :: rest)
    else spaced title

/-- The second pass: an underscore before a lowercase letter makes it a capital. Only at the start
of the text does the underscore stay. -/
def joinUnderscores (atStart : Bool) : List Char → List Char
  | [] => []
  | [c] => [c]
  | c :: d :: rest =>
    if c == '_' && d.isLower then
      (if atStart then ['_'] else []) ++ d.toUpper :: joinUnderscores false rest
    else c :: joinUnderscores false (d :: rest)

/-- Whether a letter behind `c` starts a word. -/
def startsWordAfter (c : Char) : Bool := isBlank c || c.isDigit || c == '$'

/-- The third pass, `previous` being the character before. -/
def dropBreaks (previous : Option Char) : List Char → List Char
  | [] => []
  | c :: rest =>
    if isBlank c then dropBreaks (some c) rest
    else
      (if previous.any startsWordAfter && c.isAlpha then c.toUpper else c)
        :: dropBreaks (some c) rest

/-- The name of a type for a title. -/
def typeName (title : String) : String :=
  String.ofList (upperFirst (dropBreaks none (joinUnderscores true (withBreaks title.toList))))

end ProgramConnector.Naming
