import ProgramConnector.Document.Reader

/-!
# Rendering profiles

How scalars, further properties and indentation look in the generated types.
-/

namespace ProgramConnector.TypeScript

/-- The types of JSON scalars. -/
structure ScalarTypes where
  /-- The type of texts. -/
  string : String := "string"
  /-- The type of whole numbers. -/
  integer : String := "number"
  /-- The type of numbers. -/
  number : String := "number"
  /-- The type of truth values. -/
  boolean : String := "boolean"
  /-- The type of null. -/
  null : String := "null"
  /-- The type of everything else. -/
  any : String := "unknown"
deriving DecidableEq

/-- A rendering profile. -/
structure Profile where
  /-- The types of scalars. -/
  types : ScalarTypes := {}
  /-- Whether objects that say nothing about further properties allow them. -/
  additionalProperties : Bool := false
  /-- A comment above every block. -/
  bannerComment : Option String := none
  /-- One level of indentation. -/
  indent : String := "  "
deriving DecidableEq

/-- The reader of scalar types. -/
def ScalarTypes.reader : Reader ScalarTypes :=
  Reader.record {} [
    Field.of "string" Reader.text fun value types => { types with string := value },
    Field.of "integer" Reader.text fun value types => { types with integer := value },
    Field.of "number" Reader.text fun value types => { types with number := value },
    Field.of "boolean" Reader.text fun value types => { types with boolean := value },
    Field.of "null" Reader.text fun value types => { types with null := value },
    Field.of "any" Reader.text fun value types => { types with any := value }]

namespace Profile

/-- The reader of profiles. -/
def reader : Reader Profile :=
  Reader.record {} [
    Field.of "types" ScalarTypes.reader fun value profile => { profile with types := value },
    Field.of "additional_properties" Reader.flag fun value profile =>
      { profile with additionalProperties := value },
    Field.of "banner_comment" (Reader.optional Reader.text) fun value profile =>
      { profile with bannerComment := value },
    Field.of "indent" Reader.text fun value profile => { profile with indent := value }]

/-- The type of a scalar tag; an unknown tag is any type. -/
def scalarType (profile : Profile) (tag : String) : String :=
  if tag == "string" then profile.types.string
  else if tag == "integer" then profile.types.integer
  else if tag == "number" then profile.types.number
  else if tag == "boolean" then profile.types.boolean
  else if tag == "null" then profile.types.null
  else profile.types.any

/-- The indentation of a nesting level. -/
def pad (profile : Profile) (level : Nat) : String :=
  String.join (List.replicate level profile.indent)

end Profile

end ProgramConnector.TypeScript
