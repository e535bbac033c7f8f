import ProgramConnector.Json.Reader

/-!
# Passing over values

A value of no interest is only checked for its form: it may nest to any depth, its numbers may be of
any size, and the escapes of its texts need not pair up. A number that stops too early is malformed
here, where a read number would be truncated.
-/

namespace ProgramConnector

namespace Json

/-- The characters after a text that is passed over. -/
def skipText : List Char → Except Problem (List Char)
  | [] => .error .truncated
  | ['\\'] => .error .truncated
  | '\\' :: 'u' :: a :: b :: c :: d :: rest =>
    if (hexQuad? a b c d).isSome then skipText rest else .error .malformed
  | '\\' :: 'u' :: rest => .error (shortEscape rest)
  | '\\' :: c :: rest =>
    if (letterEscape? c).isSome then skipText rest else .error .malformed
  | c :: rest =>
    if c == '"' then .ok rest
    else if c.toNat < 32 then .error .malformed
    else skipText rest

/-- The characters after an exponent that is passed over, its letter being read. -/
def skipExponent (chars : List Char) : Except Problem (List Char) :=
  let chars :=
    match chars with
    | '+' :: rest => rest
    | '-' :: rest => rest
    | _ => chars
  if chars.head?.any isDigit then .ok (chars.dropWhile isDigit) else .error .malformed

/-- The characters after a fraction that is passed over, its point being read. -/
def skipFraction (chars : List Char) : Except Problem (List Char) :=
  if chars.head?.any isDigit then
    match chars.dropWhile isDigit with
    | 'e' :: rest => skipExponent rest
    | 'E' :: rest => skipExponent rest
    | rest => .ok rest
  else .error .malformed

/-- The characters after a number that is passed over, its sign being read. -/
def skipNumber (chars : List Char) : Except Problem (List Char) :=
  let tail (rest : List Char) : Except Problem (List Char) :=
    match rest with
    | '.' :: rest => skipFraction rest
    | 'e' :: rest => skipExponent rest
    | 'E' :: rest => skipExponent rest
    | _ => .ok rest
  match chars with
  | '0' :: rest => if rest.head?.any isDigit then .error .malformed else tail rest
  | c :: _ => if isDigit c then tail (chars.dropWhile isDigit) else .error .malformed
  | [] => .error .malformed

/-- The characters after a value that is no container, or nothing at the start of a container. -/
def skipScalar? (chars : List Char) : Except Problem (Option (List Char)) :=
  match chars with
  | [] => .error .truncated
  | 'n' :: rest => (keyword ['u', 'l', 'l'] rest).map some
  | 't' :: rest => (keyword ['r', 'u', 'e'] rest).map some
  | 'f' :: rest => (keyword ['a', 'l', 's', 'e'] rest).map some
  | '"' :: rest => (skipText rest).map some
  | '-' :: rest => (skipNumber rest).map some
  | '[' :: _ => .ok none
  | '\x7b' :: _ => .ok none
  | c :: _ => if isDigit c then (skipNumber chars).map some else .error .malformed

/-- What encloses the place at which a value is passed over. -/
inductive Enclosure where
  /-- A list. -/
  | list
  /-- An object. -/
  | object

/-- The position between the items of an enclosure. -/
def Enclosure.next : Enclosure → Bool → List Char → Except Problem Position
  | .list => nextElement
  | .object => nextKey

/-- The value of an item: in an object it comes after the key and the colon. -/
def Enclosure.enter : Enclosure → List Char → Except Problem (List Char)
  | .list, start => .ok start
  | .object, start => skipText start >>= colon

/-- Passes over what is left of the enclosures around a place, innermost first: `first` says whether
the innermost one has no item yet. The bound is at least the number of characters. -/
def skipEnclosures : Nat → List Enclosure → Bool → List Char → Except Problem (List Char)
  | _, [], _, chars => .ok chars
  | 0, _ :: _, _, _ => .error .malformed
  | bound + 1, innermost :: outer, first, chars => do
    match ← innermost.next first chars with
    | .after rest => skipEnclosures bound outer false rest
    | .item start =>
      let chars := skipSpace (← innermost.enter start)
      match ← skipScalar? chars with
      | some rest => skipEnclosures bound (innermost :: outer) false rest
      | none =>
        let inner : Enclosure := if chars.head? == some '[' then .list else .object
        skipEnclosures bound (inner :: innermost :: outer) true (chars.drop 1)

/-- The characters after a value that is passed over. -/
def skipValue (chars : List Char) : Except Problem (List Char) := do
  let chars := skipSpace chars
  match ← skipScalar? chars with
  | some rest => return rest
  | none =>
    let inner : Enclosure := if chars.head? == some '[' then .list else .object
    skipEnclosures chars.length [inner] true (chars.drop 1)

end Json

end ProgramConnector
