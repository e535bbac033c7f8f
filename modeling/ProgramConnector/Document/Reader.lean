import ProgramConnector.Json.Skip

/-!
# Typed documents

A reader turns a document into a value of a given type. It reads straight from text, where the first
problem in reading order decides and a repeated field is a problem, or from a document that has been
read already, where the last of repeated fields has won. A record is an object with known fields;
fields it does not know are passed over. A record may also be written as the list of its fields, the
last ones left out. Missing fields keep their defaults.
-/

namespace ProgramConnector

/-- How values of a type are read. -/
structure Reader (α : Type) where
  /-- Reads from text, given the nesting that is left. -/
  fromText : Nat → List Char → Except Problem (α × List Char)
  /-- Reads from a document without repeated keys. -/
  fromJson : Json → Option α

/-- A field of a record: reading it gives the change that it makes to the record. -/
structure Field (α : Type) where
  /-- The name of the field. -/
  name : String
  /-- How the change is read. -/
  change : Reader (α → α)

namespace Reader

variable {α β : Type}

/-- The reader of images under a function. -/
def map (f : α → β) (reader : Reader α) : Reader β where
  fromText depth chars := (reader.fromText depth chars).map fun (value, rest) => (f value, rest)
  fromJson value := (reader.fromJson value).map f

/-- Reads a scalar and looks at it: a container is of no expected form, and a scalar is read to its
end before its form is looked at. -/
def scalar (accept : Json → Option α) : Reader α where
  fromText _ chars := do
    match ← Json.scalar? (Json.skipSpace chars) with
    | none => .error .mismatched
    | some (value, rest) =>
      match accept value with
      | some result => return (result, rest)
      | none => .error .mismatched
  fromJson := accept

/-- A text. -/
def text : Reader String := scalar Json.text?

/-- A truth value. -/
def flag : Reader Bool := scalar Json.bool?

/-- Whether the next value is null, judged by its first letter. -/
def startsNull (chars : List Char) : Bool := (Json.skipSpace chars).head? == some 'n'

/-- A value that may be null. -/
def optional (reader : Reader α) : Reader (Option α) where
  fromText depth chars :=
    if startsNull chars then do
      let rest ← Json.keyword ['n', 'u', 'l', 'l'] (Json.skipSpace chars)
      return (none, rest)
    else (reader.fromText depth chars).map fun (value, rest) => (some value, rest)
  fromJson
    | .null => some none
    | value => (reader.fromJson value).map some

/-- A text in which null is the empty text. -/
def textOrNull : Reader String := (optional text).map (·.getD "")

/-- A value that is read whole, repeated keys included, before its form is looked at. -/
def whole (accept : Json → Option α) : Reader α where
  fromText depth chars := do
    let (value, rest) ← Json.value depth chars
    match accept value with
    | some result => return (result, rest)
    | none => .error .mismatched
  fromJson := accept

/-- The field of a name. -/
def fieldNamed? (name : String) (fields : List (Field α)) : Option (Field α) :=
  fields.find? (·.name == name)

/-- Reads the members of a record from text. A field in `seen` has been read before. The bound is at
least the number of characters. -/
def recordMembers (fields : List (Field α)) (depth : Nat) :
    Nat → List String → Bool → α → List Char → Except Problem (α × List Char)
  | 0, _, _, _, _ => .error .malformed
  | bound + 1, seen, first, record, chars => do
    match ← Json.nextKey first chars with
    | .after rest => return (record, rest)
    | .item start =>
      let (key, rest) ← Json.text start
      match fieldNamed? key fields with
      | none =>
        let rest ← Json.colon rest
        let rest ← Json.skipValue rest
        recordMembers fields depth bound seen false record rest
      | some field =>
        if seen.contains key then .error .mismatched
        else
          let rest ← Json.colon rest
          let (change, rest) ← field.change.fromText depth rest
          recordMembers fields depth bound (key :: seen) false (change record) rest

/-- Reads the fields of a record from the elements of a list in text. -/
def recordElements (depth : Nat) :
    List (Field α) → Bool → α → List Char → Except Problem (α × List Char)
  | [], _, record, chars =>
    match Json.skipSpace chars with
    | [] => .error .truncated
    | ']' :: rest => .ok (record, rest)
    | _ :: _ => .error .malformed
  | field :: fields, first, record, chars => do
    match ← Json.nextElement first chars with
    | .after rest => return (record, rest)
    | .item start =>
      let (change, rest) ← field.change.fromText depth start
      recordElements depth fields false (change record) rest

/-- Reads the members of a record from a document. -/
def membersFromJson (fields : List (Field α)) : List (String × Json) → α → Option α
  | [], record => some record
  | (key, value) :: rest, record =>
    match fieldNamed? key fields with
    | none => membersFromJson fields rest record
    | some field => do membersFromJson fields rest ((← field.change.fromJson value) record)

/-- Reads the fields of a record from the elements of a list; no element may be left. -/
def elementsFromJson : List (Field α) → List Json → α → Option α
  | _, [], record => some record
  | [], _ :: _, _ => none
  | field :: fields, value :: rest, record => do
    elementsFromJson fields rest ((← field.change.fromJson value) record)

/-- A record with the given fields, starting from its defaults. -/
def record (defaults : α) (fields : List (Field α)) : Reader α where
  fromText depth chars :=
    match depth, Json.skipSpace chars with
    | 0, '[' :: _ => .error .malformed
    | 0, '\x7b' :: _ => .error .malformed
    | depth + 1, '[' :: rest => recordElements depth fields true defaults rest
    | depth + 1, '\x7b' :: rest =>
      recordMembers fields depth (rest.length + 1) [] true defaults rest
    | _, chars => do
      let _ ← Json.scalar? chars
      .error .mismatched
  fromJson
    | .obj members => membersFromJson fields members defaults
    | .arr elements => elementsFromJson fields elements defaults
    | _ => none

/-- An object with arbitrary keys, read whole and without repeated keys. Only an object will do, and
another container is refused at its start. -/
def object : Reader (List (String × Json)) where
  fromText depth chars :=
    match Json.skipSpace chars with
    | '\x7b' :: _ => do
      let (value, rest) ← Json.value depth chars
      return (value.merged.members, rest)
    | chars => do
      let _ ← Json.scalar? chars
      .error .mismatched
  fromJson
    | .obj members => some members
    | _ => none

/-- The value of a text that holds one document. -/
def ofText (reader : Reader α) (source : String) : Except Problem α :=
  reader.fromText Json.nestingLimit source.toList >>= Json.finish

/-- The value of a document. -/
def ofJson (reader : Reader α) (value : Json) : Except Problem α :=
  match reader.fromJson value with
  | some result => .ok result
  | none => .error .mismatched

end Reader

namespace Field

variable {α β : Type}

/-- A field read by `reader` and put into the record by `set`. -/
def of (name : String) (reader : Reader β) (set : β → α → α) : Field α := ⟨name, reader.map set⟩

end Field

end ProgramConnector
