import ProgramConnector.Json.Basic

/-!
# Schemas

A schema is a truth value or a schema object. The keywords that shape a generated type are parts of
their own: the type tags, the title, the properties, the items and the additional properties. Every
other keyword is kept as it was written, in order.
-/

namespace ProgramConnector

/-- The `type` keyword: one tag, or a list of tags. -/
inductive TypeTags where
  /-- A single tag. -/
  | one (tag : String)
  /-- A list of tags. -/
  | many (tags : List String)
deriving DecidableEq

/-- The tags in order. -/
def TypeTags.toList : TypeTags → List String
  | .one tag => [tag]
  | .many tags => tags

/-- The keywords of a schema object that hold no schema of their own. -/
structure SchemaFacts where
  /-- The type tags. -/
  tags : Option TypeTags
  /-- The title. -/
  title : Option String
  /-- All keywords that have no part of their own, in document order. -/
  keywords : List (String × Json)

mutual

/-- A schema. -/
inductive Schema where
  /-- The schema that allows everything or nothing. -/
  | bool (allowed : Bool)
  /-- A schema object. -/
  | object (facts : SchemaFacts) (properties : Properties) (items : Items) (extra : Extra)

/-- The `properties` keyword. -/
inductive Properties where
  /-- The keyword is absent. -/
  | absent
  /-- The properties in document order. -/
  | listed (entries : List (String × Schema))

/-- The `items` keyword. -/
inductive Items where
  /-- The keyword is absent. -/
  | absent
  /-- One schema per place. -/
  | tuple (places : List Schema)
  /-- One schema for every element. -/
  | each (element : Schema)

/-- The `additionalProperties` keyword. -/
inductive Extra where
  /-- The keyword is absent. -/
  | absent
  /-- Further properties are allowed or not. -/
  | allowed (allowed : Bool)
  /-- Further properties are of one schema. -/
  | typed (schema : Schema)

end

namespace SchemaFacts

/-- Whether the tags include `tag`. -/
def hasType (facts : SchemaFacts) (tag : String) : Bool :=
  match facts.tags with
  | some tags => tags.toList.contains tag
  | none => false

/-- The value of a keyword that has no part of its own. -/
def keyword? (facts : SchemaFacts) (name : String) : Option Json :=
  Members.find? name facts.keywords

/-- The texts listed under `required`. -/
def required (facts : SchemaFacts) : List String :=
  match (facts.keyword? "required").bind Json.elements? with
  | some names => names.filterMap Json.text?
  | none => []

/-- The description, if it is a text. -/
def description (facts : SchemaFacts) : Option String :=
  (facts.keyword? "description").bind Json.text?

end SchemaFacts

namespace Schema

/-- The facts of a schema object. -/
def facts? : Schema → Option SchemaFacts
  | .bool _ => none
  | .object facts _ _ _ => some facts

/-- The title of a schema object. -/
def title (schema : Schema) : Option String := schema.facts?.bind (·.title)

/-- The description of a schema object. -/
def description (schema : Schema) : Option String := schema.facts?.bind (·.description)

end Schema

end ProgramConnector
