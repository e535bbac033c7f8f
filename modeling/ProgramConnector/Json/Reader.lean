import ProgramConnector.Json.Basic

/-!
# Reading documents

A reader takes the characters still to come and gives a value with the characters after it, or the
first problem in reading order. A value may hold at most `nestingLimit` containers inside one
another. Values of no interest are passed over by `skipValue`, which has no nesting limit and does
not look at the size of numbers or at surrogates.
-/

namespace ProgramConnector

/-- What keeps a text from being read. -/
inductive Problem where
  /-- The text ends too early. -/
  | truncated
  /-- The text is not a document. -/
  | malformed
  /-- The document is not of the expected form. -/
  | mismatched
deriving DecidableEq

namespace Json

/-- The greatest number of containers inside one another. -/
def nestingLimit : Nat := 127

/-- White space between the parts of a document. -/
def isSpace (c : Char) : Bool := c == ' ' || c == '\n' || c == '\t' || c == '\r'

/-- The characters after white space. -/
def skipSpace (chars : List Char) : List Char := chars.dropWhile isSpace

/-- The rest of a keyword such as a truth value. -/
def keyword : List Char → List Char → Except Problem (List Char)
  | [], chars => .ok chars
  | _ :: _, [] => .error .truncated
  | k :: ks, c :: chars => if c == k then keyword ks chars else .error .malformed

/-- The value of a hexadecimal digit. -/
def hexValue? (c : Char) : Option Nat :=
  if '0' ≤ c && c ≤ '9' then some (c.toNat - 48)
  else if 'a' ≤ c && c ≤ 'f' then some (c.toNat - 87)
  else if 'A' ≤ c && c ≤ 'F' then some (c.toNat - 55)
  else none

/-- The value of four hexadecimal digits. -/
def hexQuad? (a b c d : Char) : Option Nat := do
  return ((← hexValue? a) * 16 + (← hexValue? b)) * 256 + (← hexValue? c) * 16 + (← hexValue? d)

/-- A code escape without four characters to come: with fewer than four bytes left the text ends too
early, else a digit is wrong. -/
def shortEscape (chars : List Char) : Problem :=
  if (String.ofList chars).utf8ByteSize < 4 then .truncated else .malformed

/-- The character of an escape of one letter. -/
def letterEscape? (c : Char) : Option Char :=
  if c == '"' then some '"'
  else if c == '\\' then some '\\'
  else if c == '/' then some '/'
  else if c == 'b' then some '\x08'
  else if c == 'f' then some '\x0c'
  else if c == 'n' then some '\n'
  else if c == 'r' then some '\r'
  else if c == 't' then some '\t'
  else none

/-- Whether a code unit opens a surrogate pair. -/
def isHighSurrogate (n : Nat) : Bool := 0xD800 ≤ n && n ≤ 0xDBFF

/-- Whether a code unit closes a surrogate pair. -/
def isLowSurrogate (n : Nat) : Bool := 0xDC00 ≤ n && n ≤ 0xDFFF

/-- The character of a surrogate pair. -/
def surrogatePair (high low : Nat) : Char :=
  Char.ofNat ((high - 0xD800) * 0x400 + (low - 0xDC00) + 0x10000)

/-- A character put before the text that follows it. -/
def prepend (c : Char) (reading : Except Problem (List Char × List Char)) :
    Except Problem (List Char × List Char) :=
  reading.map fun (text, rest) => (c :: text, rest)

/-- The characters of a text up to its closing quote. With `high` a surrogate pair is open, and only
the escape that closes it may follow. -/
def textBody (high : Option Nat) : List Char → Except Problem (List Char × List Char)
  | [] => .error .truncated
  | ['\\'] => .error .truncated
  | '\\' :: 'u' :: a :: b :: c :: d :: rest =>
    match hexQuad? a b c d with
    | none => .error .malformed
    | some n =>
      match high with
      | some h =>
        if isLowSurrogate n then prepend (surrogatePair h n) (textBody none rest)
        else .error .malformed
      | none =>
        if isLowSurrogate n then .error .malformed
        else if isHighSurrogate n then textBody (some n) rest
        else prepend (Char.ofNat n) (textBody none rest)
  | '\\' :: 'u' :: rest => .error (shortEscape rest)
  | '\\' :: c :: rest =>
    match high, letterEscape? c with
    | none, some d => prepend d (textBody none rest)
    | _, _ => .error .malformed
  | c :: rest =>
    if high.isSome then .error .malformed
    else if c == '"' then .ok ([], rest)
    else if c.toNat < 32 then .error .malformed
    else prepend c (textBody none rest)

/-- A text, the characters being those after its opening quote. -/
def text (chars : List Char) : Except Problem (String × List Char) := do
  let (body, rest) ← textBody none chars
  return (String.ofList body, rest)

/-- Whether a character is an ASCII digit. -/
def isDigit (c : Char) : Bool := c.isDigit

/-- The value of a digit. -/
def digitValue (c : Char) : Nat := c.toNat - 48

/-- Digits added to a significand of at most 64 bits: the result, and the digits that no longer
fit. -/
def absorb (significand : Nat) : List Char → Nat × List Char
  | [] => (significand, [])
  | c :: rest =>
    if significand * 10 + digitValue c < wordLimit then
      absorb (significand * 10 + digitValue c) rest
    else (significand, c :: rest)

/-- The value of a list of digits. -/
def digitsValue (digits : List Char) : Nat := digits.foldl (fun n c => n * 10 + digitValue c) 0

/-- A double from its parts. A number that is too large is malformed. -/
def double (negative : Bool) (significand : Nat) (exponent : Int) (rest : List Char) :
    Except Problem (Number × List Char) :=
  match Binary64.scaled significand exponent with
  | some value => .ok (.double (value.withSign negative), rest)
  | none => .error .malformed

/-- The exponent of a number, after its letter. -/
def exponentPart (negative : Bool) (significand : Nat) (exponent : Int) (chars : List Char) :
    Except Problem (Number × List Char) :=
  let (down, chars) : Bool × List Char :=
    match chars with
    | '+' :: rest => (false, rest)
    | '-' :: rest => (true, rest)
    | _ => (false, chars)
  let digits := chars.takeWhile isDigit
  let rest := chars.dropWhile isDigit
  if digits.isEmpty then .error (if rest.isEmpty then .truncated else .malformed)
  else
    let power : Int := Int.ofNat (digitsValue digits)
    double negative significand (if down then exponent - power else exponent + power) rest

/-- What may follow the digits of a number that is a double already. -/
def doubleTail (negative : Bool) (significand : Nat) (exponent : Int) (chars : List Char) :
    Except Problem (Number × List Char) :=
  match chars with
  | 'e' :: rest => exponentPart negative significand exponent rest
  | 'E' :: rest => exponentPart negative significand exponent rest
  | _ => double negative significand exponent chars

/-- The digits after the point; those that no longer fit the significand do not count. -/
def fractionPart (negative : Bool) (significand : Nat) (exponent : Int) (chars : List Char) :
    Except Problem (Number × List Char) :=
  let digits := chars.takeWhile isDigit
  let rest := chars.dropWhile isDigit
  if digits.isEmpty then .error (if rest.isEmpty then .truncated else .malformed)
  else
    let (significand, left) := absorb significand digits
    doubleTail negative significand (exponent - Int.ofNat (digits.length - left.length)) rest

/-- A number without point and exponent: whole when 64 bits hold it, and a double otherwise. Minus
zero is a double. -/
def wholeNumber (negative : Bool) (significand : Nat) (rest : List Char) :
    Except Problem (Number × List Char) :=
  if !negative then .ok (.whole (Int.ofNat significand), rest)
  else if significand == 0 || significand > signedLimit then double true significand 0 rest
  else .ok (.whole (-Int.ofNat significand), rest)

/-- A number after its sign. A zero stands alone before the point. -/
def number (negative : Bool) (chars : List Char) : Except Problem (Number × List Char) :=
  let digits :=
    match chars with
    | '0' :: _ => ['0']
    | _ => chars.takeWhile isDigit
  let rest := chars.drop digits.length
  if digits.isEmpty then .error (if rest.isEmpty then .truncated else .malformed)
  else if digits == ['0'] && (rest.head?.any isDigit) then .error .malformed
  else
    let (significand, left) := absorb 0 digits
    let exponent := Int.ofNat left.length
    match rest with
    | '.' :: after => fractionPart negative significand exponent after
    | 'e' :: after => exponentPart negative significand exponent after
    | 'E' :: after => exponentPart negative significand exponent after
    | _ =>
      if left.isEmpty then wholeNumber negative significand rest
      else double negative significand exponent rest

/-- Where a reader stands between the items of a container. -/
inductive Position where
  /-- After the closing bracket. -/
  | after (rest : List Char)
  /-- At the start of an item. -/
  | item (start : List Char)

/-- The position after the opening bracket of a list, or after one of its elements. -/
def nextElement (first : Bool) (chars : List Char) : Except Problem Position :=
  match skipSpace chars with
  | [] => .error .truncated
  | ']' :: rest => .ok (.after rest)
  | c :: rest =>
    if first then .ok (.item (c :: rest))
    else if c == ',' then
      match skipSpace rest with
      | [] => .error .truncated
      | ']' :: _ => .error .malformed
      | start => .ok (.item start)
    else .error .malformed

/-- The elements of a list, read by `element`. The bound is at least the number of characters. -/
def elementsOf {α : Type} (element : List Char → Except Problem (α × List Char)) :
    Nat → Bool → List Char → Except Problem (List α × List Char)
  | 0, _, _ => .error .malformed
  | bound + 1, first, chars => do
    match ← nextElement first chars with
    | .after rest => return ([], rest)
    | .item start =>
      let (value, rest) ← element start
      let (values, rest) ← elementsOf element bound false rest
      return (value :: values, rest)

/-- The position after the opening brace of an object, or after one of its members; an item starts
after the opening quote of its key. -/
def nextKey (first : Bool) (chars : List Char) : Except Problem Position :=
  match skipSpace chars with
  | [] => .error .truncated
  | '\x7d' :: rest => .ok (.after rest)
  | c :: rest =>
    if first then
      if c == '"' then .ok (.item rest) else .error .malformed
    else if c == ',' then
      match skipSpace rest with
      | [] => .error .truncated
      | '"' :: start => .ok (.item start)
      | _ => .error .malformed
    else .error .malformed

/-- The characters after the colon between a key and its value. -/
def colon (chars : List Char) : Except Problem (List Char) :=
  match skipSpace chars with
  | [] => .error .truncated
  | ':' :: rest => .ok rest
  | _ => .error .malformed

/-- The members of an object, in order, with repeated keys. The bound is at least the number of
characters. -/
def membersOf {α : Type} (value : List Char → Except Problem (α × List Char)) :
    Nat → Bool → List Char → Except Problem (List (String × α) × List Char)
  | 0, _, _ => .error .malformed
  | bound + 1, first, chars => do
    match ← nextKey first chars with
    | .after rest => return ([], rest)
    | .item start =>
      let (key, rest) ← text start
      let rest ← colon rest
      let (item, rest) ← value rest
      let (items, rest) ← membersOf value bound false rest
      return ((key, item) :: items, rest)

/-- A value that is no container, or nothing at the start of a container. -/
def scalar? (chars : List Char) : Except Problem (Option (Json × List Char)) :=
  match chars with
  | [] => .error .truncated
  | 'n' :: rest => do return some (.null, ← keyword ['u', 'l', 'l'] rest)
  | 't' :: rest => do return some (.bool true, ← keyword ['r', 'u', 'e'] rest)
  | 'f' :: rest => do return some (.bool false, ← keyword ['a', 'l', 's', 'e'] rest)
  | '"' :: rest => do
    let (value, rest) ← text rest
    return some (.str value, rest)
  | '-' :: rest => do
    let (value, rest) ← number true rest
    return some (.num value, rest)
  | '[' :: _ => .ok none
  | '\x7b' :: _ => .ok none
  | c :: _ =>
    if isDigit c then do
      let (value, rest) ← number false chars
      return some (.num value, rest)
    else .error .malformed

/-- A value with at most `depth` containers inside one another. -/
def value : Nat → List Char → Except Problem (Json × List Char)
  | depth, chars => do
    let chars := skipSpace chars
    match ← scalar? chars with
    | some reading => return reading
    | none =>
      match depth, chars with
      | 0, _ => .error .malformed
      | depth + 1, '[' :: rest =>
        let (elements, rest) ← elementsOf (value depth) (rest.length + 1) true rest
        return (.arr elements, rest)
      | depth + 1, _ :: rest =>
        let (members, rest) ← membersOf (value depth) (rest.length + 1) true rest
        return (.obj members, rest)
      | _ + 1, [] => .error .truncated

/-- Nothing but white space may follow a document. -/
def finish {α : Type} : α × List Char → Except Problem α
  | (value, rest) => if (skipSpace rest).isEmpty then .ok value else .error .malformed

/-- The document of a text, with repeated keys. -/
def ofTextRaw (source : String) : Except Problem Json :=
  value nestingLimit source.toList >>= finish

/-- The document of a text. -/
def ofText (source : String) : Except Problem Json := (ofTextRaw source).map merged

end Json

end ProgramConnector
