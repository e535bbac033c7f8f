import ProgramConnector.Schema.Basic

/-!
# Titles for the elements of lists

A generated type takes its name from the title of its schema, so an object inside a list needs one.
`titled` gives every such object a title made of the root's title and its path. The path goes
through the items of schemas with the tag `array`, and through the properties and additional
properties of schemas with the tag `object`; only a step through items makes the next schema an
element.
-/

namespace ProgramConnector

/-- The title of an element at a path below the root. -/
def elementTitle (root : String) (path : List String) : String :=
  if path.isEmpty then root ++ "_item" else root ++ "_" ++ "_".intercalate path

/-- The facts of a schema at a path. An element with the tag `object` gets its path's title, with
the title that it had behind it. -/
def SchemaFacts.titledAt (root : String) (path : List String) (element : Bool)
    (facts : SchemaFacts) : SchemaFacts :=
  if element && facts.hasType "object" then
    let title := elementTitle root path
    let title :=
      match facts.title with
      | some existing => title ++ "_" ++ existing
      | none => title
    { facts with title := some title }
  else facts

mutual

/-- A schema at a path below the root, with its elements titled. -/
def Schema.titledAt (root : String) (path : List String) (element : Bool) : Schema → Schema
  | .bool allowed => .bool allowed
  | .object facts properties items extra =>
    .object (facts.titledAt root path element)
      (properties.titledAt root path (facts.hasType "object"))
      (items.titledAt root path (facts.hasType "array"))
      (extra.titledAt root path (facts.hasType "object"))

/-- Properties below a path; they are left alone unless the path goes on through them. -/
def Properties.titledAt (root : String) (path : List String) (onPath : Bool) :
    Properties → Properties
  | .absent => .absent
  | .listed entries => .listed (if onPath then titledEntries root path entries else entries)

/-- Each property, its name being the next step of the path. -/
def titledEntries (root : String) (path : List String) :
    List (String × Schema) → List (String × Schema)
  | [] => []
  | (name, schema) :: rest =>
    (name, schema.titledAt root (path ++ [name]) false) :: titledEntries root path rest

/-- Items below a path; they are left alone unless the path goes on through them. -/
def Items.titledAt (root : String) (path : List String) (onPath : Bool) : Items → Items
  | .absent => .absent
  | .tuple places => .tuple (if onPath then titledPlaces root path 0 places else places)
  | .each element =>
    .each (if onPath then element.titledAt root (path ++ ["item"]) true else element)

/-- Each place of a tuple from number `index` on. -/
def titledPlaces (root : String) (path : List String) (index : Nat) : List Schema → List Schema
  | [] => []
  | schema :: rest =>
    schema.titledAt root (path ++ ["item" ++ toString index]) true
      :: titledPlaces root path (index + 1) rest

/-- Additional properties below a path; they are left alone unless the path goes on through them. -/
def Extra.titledAt (root : String) (path : List String) (onPath : Bool) : Extra → Extra
  | .absent => .absent
  | .allowed allowed => .allowed allowed
  | .typed schema =>
    .typed (if onPath then schema.titledAt root (path ++ ["additionalProperties"]) false else schema)

end

/-- A schema with its elements titled. The root gets the title `root` unless it has one. -/
def Schema.titled (root : String) : Schema → Schema
  | .bool allowed => .bool allowed
  | .object facts properties items extra =>
    .object { facts with title := some (facts.title.getD root) }
      (properties.titledAt root [] (facts.hasType "object"))
      (items.titledAt root [] (facts.hasType "array"))
      (extra.titledAt root [] (facts.hasType "object"))

end ProgramConnector
