import ProgramConnector.TypeScript.Profile
import ProgramConnector.TypeScript.Expression
import ProgramConnector.TypeScript.Declaration
import ProgramConnector.Json.Pointer

/-!
# Compiling schemas

A schema is compiled into a block of declarations. The root is declared under a given name; every
other titled schema and every target of a reference gets a declaration of its own, and an untitled
schema is written where it stands. Each step is defined over the steps below it, and `expressionAt`
and `bodyAt` close the recursion with a bound that is computed from the document.
-/

namespace ProgramConnector.TypeScript

/-- What stays fixed while a block is compiled. -/
structure Setting where
  /-- The rendering profile. -/
  profile : Profile
  /-- The name of the root declaration. -/
  rootName : String
  /-- The root schema as a document, in which references are followed. -/
  document : Json

/-- The compilation of schemas below the one at hand. -/
structure Below where
  /-- The expression of a schema at a level of indentation. -/
  expression : Schema → Nat → Compile String
  /-- The body of a declared schema. -/
  body : Schema → Compile Body

/-- The reason given for a value that is no schema. -/
def notASchema : String := "data did not match any variant of untagged enum SchemaNode"

/-- The keywords that keep an object from being an interface. -/
def combiningKeywords : List String := ["$ref", "const", "enum", "anyOf", "oneOf", "allOf"]

/-- Whether a schema object is declared as an interface: it is an object and nothing else. -/
def isInterfaceLike (facts : SchemaFacts) (properties : Properties) : Bool :=
  if combiningKeywords.any fun keyword => (facts.keyword? keyword).isSome then false
  else
    match facts.tags with
    | some tags => tags.toList == ["object"]
    | none =>
      match properties with
      | .absent => false
      | .listed _ => true

/-- The tags that decide the type of a schema: those it has, or else the one that its keywords
show. -/
def effectiveTags (facts : SchemaFacts) (properties : Properties) (items : Items) (extra : Extra) :
    List String :=
  match facts.tags, properties, extra, items with
  | some tags, _, _, _ => tags.toList
  | none, .listed _, _, _ => ["object"]
  | none, .absent, .typed _, _ => ["object"]
  | none, .absent, _, .absent => []
  | none, .absent, _, _ => ["array"]

/-- The type of a schema that allows everything or nothing. -/
def boolType (setting : Setting) (allowed : Bool) : String :=
  if allowed then setting.profile.types.any else "never"

/-- Parts joined by a separator, or the type `any` for no parts. -/
def joinParts (setting : Setting) (separator : String) (parts : List String) : String :=
  if parts.isEmpty then setting.profile.types.any else separator.intercalate parts

/-- The expression of a list of allowed values. -/
def enumeration (setting : Setting) : Json → Compile String
  | .arr [] => return "never"
  | .arr values =>
    return " | ".intercalate (distinct (values.map (literal setting.profile.types.any)))
  | _ => throw (.invalidKeyword "enum" "expected an array")

/-- The name of a reference's target, which is declared at its first use. -/
def resolve (setting : Setting) (below : Below) (reference : String) : Compile String := do
  if reference == "#" then return setting.rootName
  match Members.find? reference (← get).references with
  | some name => return name
  | none =>
    let pointer := reference.toList.drop 1
    let target : Option Json :=
      if reference.toList.head? == some '#' then setting.document.follow? pointer else none
    match target with
    | none => throw (.unresolved reference)
    | some value =>
      match Schema.ofJson? value with
      | none => throw (.invalidKeyword "$ref" (reference ++ ": " ++ notASchema))
      | some schema =>
        let lastStep := String.ofList ((Text.splitAt '/' pointer).getLast?.getD [])
        let name ← takeName (Naming.typeName (schema.title.getD lastStep))
        modify fun block => { block with references := (reference, name) :: block.references }
        declare below.body name schema
        return name

/-- The expression of alternatives or of parts that hold together. -/
def combination (setting : Setting) (below : Below) (keyword separator : String) (level : Nat) :
    Json → Compile String
  | .arr members => do
    let parts ← members.mapM fun member => do
      match Schema.ofJson? member with
      | none => throw (.invalidKeyword keyword notASchema)
      | some schema => return parenthesized (← below.expression schema level)
    return joinParts setting separator (distinct parts)
  | _ => throw (.invalidKeyword keyword "expected an array of schemas")

/-- The line of a property. -/
def propertyLine (pad name : String) (schema : Schema) (isRequired : Bool) (type : String) :
    String :=
  let comment :=
    match schema.title, schema.description with
    | none, some text => docComment text pad
    | _, _ => ""
  comment ++ pad ++ propertyKey name ++ (if isRequired then "" else "?") ++ ": " ++ type ++ ";\n"

/-- The type of further properties, if they are allowed. -/
def extraType (setting : Setting) (below : Below) (level : Nat) : Extra → Compile (Option String)
  | .typed schema => return some (← below.expression schema level)
  | .allowed true => return some setting.profile.types.any
  | .allowed false => return none
  | .absent =>
    return if setting.profile.additionalProperties then some setting.profile.types.any else none

/-- The entries of the `properties` keyword. -/
def Properties.entries : Properties → List (String × Schema)
  | .absent => []
  | .listed entries => entries

/-- The member lines of an object: its properties and then an index signature. -/
def memberLines (setting : Setting) (below : Below) (level : Nat) (facts : SchemaFacts)
    (properties : Properties) (extra : Extra) : Compile String := do
  let pad := setting.profile.pad level
  let lines ← (Properties.entries properties).mapM fun (name, schema) => do
    let type ← below.expression schema level
    return propertyLine pad name schema (facts.required.contains name) type
  let signature :=
    match ← extraType setting below level extra with
    | some type => pad ++ "[k: string]: " ++ type ++ ";\n"
    | none => ""
  return String.join lines ++ signature

/-- The expression of an object where it stands. -/
def objectExpression (setting : Setting) (below : Below) (level : Nat) (facts : SchemaFacts)
    (properties : Properties) (extra : Extra) : Compile String := do
  let members ← memberLines setting below (level + 1) facts properties extra
  if members.isEmpty then return "\x7b\x7d"
  return "\x7b\n" ++ members ++ setting.profile.pad level ++ "\x7d"

/-- The expression of a list. -/
def listExpression (setting : Setting) (below : Below) (level : Nat) : Items → Compile String
  | .absent => return setting.profile.types.any ++ "[]"
  | .each element => return parenthesized (← below.expression element level) ++ "[]"
  | .tuple places => do
    let elements ← places.mapM fun place => below.expression place level
    return "[" ++ ", ".intercalate elements ++ "]"

/-- The expression of a schema object by its tags. -/
def taggedExpression (setting : Setting) (below : Below) (level : Nat) (facts : SchemaFacts)
    (properties : Properties) (items : Items) (extra : Extra) : Compile String := do
  let parts ← (effectiveTags facts properties items extra).mapM fun tag =>
    if tag == "object" then objectExpression setting below level facts properties extra
    else if tag == "array" then listExpression setting below level items
    else return setting.profile.scalarType tag
  return joinParts setting " | " (distinct parts)

/-- The expression of a schema object without regard to its title. A reference goes before a
constant, a constant before a list of values, those before combinations, and the tags come last. -/
def inlineExpression (setting : Setting) (below : Below) (level : Nat) (facts : SchemaFacts)
    (properties : Properties) (items : Items) (extra : Extra) : Compile String := do
  if let some reference := facts.keyword? "$ref" then
    match reference with
    | .str reference => resolve setting below reference
    | _ => throw (.invalidKeyword "$ref" "expected a string")
  else if let some value := facts.keyword? "const" then
    return literal setting.profile.types.any value
  else if let some values := facts.keyword? "enum" then
    enumeration setting values
  else if let some members := facts.keyword? "anyOf" then
    combination setting below "anyOf" " | " level members
  else if let some members := facts.keyword? "oneOf" then
    combination setting below "oneOf" " | " level members
  else if let some members := facts.keyword? "allOf" then
    combination setting below "allOf" " & " level members
  else
    taggedExpression setting below level facts properties items extra

/-- The expression of a schema: a titled one by its name, any other where it stands. -/
def expression (setting : Setting) (below : Below) (schema : Schema) (level : Nat) :
    Compile String :=
  match schema with
  | .bool allowed => return boolType setting allowed
  | .object facts properties items extra =>
    match facts.title with
    | some title => nameTitled below.body schema title
    | none => inlineExpression setting below level facts properties items extra

/-- The body of a declared schema. -/
def declarationBody (setting : Setting) (below : Below) : Schema → Compile Body
  | .bool allowed => return .alias (boolType setting allowed)
  | .object facts properties items extra => do
    if isInterfaceLike facts properties then
      return .interface (← memberLines setting below 1 facts properties extra)
    return .alias (← inlineExpression setting below 0 facts properties items extra)

mutual

/-- The expression of a schema, with at most `bound` steps inside one another. -/
def expressionAt (setting : Setting) : Nat → Schema → Nat → Compile String
  | 0, _, _ => throw .exhausted
  | bound + 1, schema, level =>
    expression setting ⟨expressionAt setting bound, bodyAt setting bound⟩ schema level

/-- The body of a declared schema, with at most `bound` steps inside one another. -/
def bodyAt (setting : Setting) : Nat → Schema → Compile Body
  | 0, _ => throw .exhausted
  | bound + 1, schema =>
    declarationBody setting ⟨expressionAt setting bound, bodyAt setting bound⟩ schema

end

/-- A bound on the steps inside one another. Every reference is followed once, and between two
references the schemas at hand get smaller, with at most two steps each. -/
def stepBound (document : Json) : Nat :=
  ((document.valuesUnder "$ref").length + 1) * (2 * document.size + 2)

/-- The block in which only the root has its place. -/
def Block.start (rootName : String) (description : Option String) : Block :=
  ⟨[⟨rootName, description, none⟩], [rootName], [], []⟩

/-- The block of a schema, with the root in the first place. -/
def blockOf (schema : Schema) (rootName : String) (profile : Profile) :
    Except CompileError Block := do
  let document := schema.toJson
  let setting : Setting := ⟨profile, rootName, document⟩
  let (body, block) ←
    (bodyAt setting (stepBound document) schema).run (Block.start rootName schema.description)
  return block.complete 0 body

/-- The declarations of a schema, the root first. -/
def declarations (schema : Schema) (rootName : String) (profile : Profile) :
    Except CompileError (List Declaration) :=
  (blockOf schema rootName profile).map (·.declarations)

/-- A schema as a block of types. -/
def compile (schema : Schema) (rootName : String) (profile : Profile) :
    Except CompileError String :=
  (declarations schema rootName profile).map (renderBlock profile.bannerComment)

end ProgramConnector.TypeScript
