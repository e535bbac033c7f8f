import ProgramConnector.Schema.Basic

/-!
# Schemas as documents

Reading and writing schemas. A keyword with a part of its own counts as absent when it is null, and
may not be repeated in a text. Of a repeated other keyword, as of a repeated property, the last
value counts, at the first place. Written keywords start with those that have parts of their own.
-/

namespace ProgramConnector

/-- The names of the keywords that have parts of their own. -/
def partKeywords : List String := ["type", "title", "properties", "items", "additionalProperties"]

/-- The keywords of a schema object while it is read. -/
structure SchemaParts where
  /-- The keywords that hold no schema. -/
  facts : SchemaFacts
  /-- The properties. -/
  properties : Properties
  /-- The items. -/
  items : Items
  /-- The additional properties. -/
  extra : Extra

namespace SchemaParts

/-- No keyword at all. -/
def empty : SchemaParts := ⟨⟨none, none, []⟩, .absent, .absent, .absent⟩

/-- The schema object of these keywords. -/
def toSchema (parts : SchemaParts) : Schema :=
  .object parts.facts parts.properties parts.items parts.extra

end SchemaParts

/-- The type tags of a value. -/
def TypeTags.ofJson? : Json → Option (Option TypeTags)
  | .null => some none
  | .str tag => some (some (.one tag))
  | .arr tags => (tags.mapM Json.text?).map fun tags => some (.many tags)
  | _ => none

/-- The title of a value. -/
def titleOfJson? : Json → Option (Option String)
  | .null => some none
  | .str title => some (some title)
  | _ => none

/-- Whether no keyword with a part of its own is repeated. -/
def partsOnce (members : List (String × Json)) : Bool :=
  partKeywords.all fun name => (Members.keys members).count name ≤ 1

mutual

/-- The schema of a document, if it has the form of one. -/
def Schema.ofJson? : Json → Option Schema
  | .bool allowed => some (.bool allowed)
  | .obj members =>
    if partsOnce members then (partsOfJson? members).map SchemaParts.toSchema else none
  | _ => none

/-- The keywords of a schema object. -/
def partsOfJson? : List (String × Json) → Option SchemaParts
  | [] => some SchemaParts.empty
  | (name, value) :: rest => do
    let parts ← partsOfJson? rest
    if name == "type" then
      let tags ← TypeTags.ofJson? value
      return { parts with facts := { parts.facts with tags := tags } }
    else if name == "title" then
      let title ← titleOfJson? value
      return { parts with facts := { parts.facts with title := title } }
    else if name == "properties" then
      return { parts with properties := ← Properties.ofJson? value }
    else if name == "items" then
      return { parts with items := ← Items.ofJson? value }
    else if name == "additionalProperties" then
      return { parts with extra := ← Extra.ofJson? value }
    else
      let keywords := Members.insertFirst name value.merged parts.facts.keywords
      return { parts with facts := { parts.facts with keywords := keywords } }

/-- The properties of a value. -/
def Properties.ofJson? : Json → Option Properties
  | .null => some .absent
  | .obj members => (propertiesOfJson? members).map .listed
  | _ => none

/-- The properties of members; every one has to be a schema, also one that a later one replaces. -/
def propertiesOfJson? : List (String × Json) → Option (List (String × Schema))
  | [] => some []
  | (name, value) :: rest => do
    let entries ← propertiesOfJson? rest
    return Members.insertFirst name (← Schema.ofJson? value) entries

/-- The items of a value. -/
def Items.ofJson? : Json → Option Items
  | .null => some .absent
  | .arr places => (schemasOfJson? places).map .tuple
  | .bool allowed => some (.each (.bool allowed))
  | .obj members =>
    if partsOnce members then (partsOfJson? members).map fun parts => .each parts.toSchema else none
  | _ => none

/-- The schemas of a list. -/
def schemasOfJson? : List Json → Option (List Schema)
  | [] => some []
  | value :: rest => do return (← Schema.ofJson? value) :: (← schemasOfJson? rest)

/-- The additional properties of a value. -/
def Extra.ofJson? : Json → Option Extra
  | .null => some .absent
  | .bool allowed => some (.allowed allowed)
  | .obj members =>
    if partsOnce members then (partsOfJson? members).map fun parts => .typed parts.toSchema else none
  | _ => none

end

/-- A type tag or a list of them as a value. -/
def TypeTags.toJson : TypeTags → Json
  | .one tag => .str tag
  | .many tags => .arr (tags.map .str)

/-- A member for a keyword that is present. -/
def presentMember (name : String) : Option Json → List (String × Json)
  | some value => [(name, value)]
  | none => []

mutual

/-- A schema as a document. -/
def Schema.toJson : Schema → Json
  | .bool allowed => .bool allowed
  | .object facts properties items extra =>
    .obj (presentMember "type" (facts.tags.map TypeTags.toJson)
      ++ presentMember "title" (facts.title.map Json.str)
      ++ presentMember "properties" properties.toJson?
      ++ presentMember "items" items.toJson?
      ++ presentMember "additionalProperties" extra.toJson?
      ++ facts.keywords)

/-- The value of the `properties` keyword. -/
def Properties.toJson? : Properties → Option Json
  | .absent => none
  | .listed entries => some (.obj (propertyMembers entries))

/-- Properties as members. -/
def propertyMembers : List (String × Schema) → List (String × Json)
  | [] => []
  | (name, schema) :: rest => (name, schema.toJson) :: propertyMembers rest

/-- The value of the `items` keyword. -/
def Items.toJson? : Items → Option Json
  | .absent => none
  | .tuple places => some (.arr (schemaElements places))
  | .each element => some element.toJson

/-- Schemas as elements. -/
def schemaElements : List Schema → List Json
  | [] => []
  | schema :: rest => schema.toJson :: schemaElements rest

/-- The value of the `additionalProperties` keyword. -/
def Extra.toJson? : Extra → Option Json
  | .absent => none
  | .allowed allowed => some (.bool allowed)
  | .typed schema => some schema.toJson

end

/-- Equality of schemas: they are written the same, up to the order of members. -/
def Schema.same (a b : Schema) : Bool := a.toJson.same b.toJson

end ProgramConnector
