import ProgramConnector.TypeScript.DocComment
import ProgramConnector.Schema.Document
import ProgramConnector.Naming.TypeName

/-!
# Declarations

A block of types is a list of declarations, the root first and the others in the order in which they
are met. A declaration takes its place and its name before its body is known, so that schemas may
refer to one another in circles. The names in use are kept beside the list, together with the titled
schemas and the references that have a declaration.
-/

namespace ProgramConnector.TypeScript

/-- What a declaration says of its name. -/
inductive Body where
  /-- An interface with these member lines. -/
  | interface (members : String)
  /-- Another name for an expression. -/
  | alias (expression : String)
deriving DecidableEq

/-- A declared type. -/
structure Declaration where
  /-- The name. -/
  name : String
  /-- The description above the declaration. -/
  description : Option String
  /-- The body, once it is known. -/
  body : Option Body
deriving DecidableEq

/-- The declarations of a block while it is compiled. -/
structure Block where
  /-- The declarations in order. -/
  declarations : List Declaration
  /-- The names in use. -/
  used : List String
  /-- The titled schemas that are declared, with their names. -/
  titled : List (Schema × String)
  /-- The references that are declared, with their names. -/
  references : List (String × String)

/-- Why a schema cannot be compiled. -/
inductive CompileError where
  /-- A reference that leads nowhere. -/
  | unresolved (reference : String)
  /-- A keyword whose value does not fit. -/
  | invalidKeyword (keyword reason : String)
  /-- The bound on nested steps is used up, which no document reaches from its own bound. -/
  | exhausted
deriving DecidableEq

/-- The text of a compile error. -/
def CompileError.message : CompileError → String
  | .unresolved reference => "cannot resolve $ref '" ++ reference ++ "'"
  | .invalidKeyword keyword reason => "invalid '" ++ keyword ++ "': " ++ reason
  | .exhausted => "schemas nested too deeply"

/-- A step of compilation. -/
abbrev Compile (α : Type) : Type := StateT Block (Except CompileError) α

/-- The names that are tried for a base name, in order: the base and then the base with a number. The
number is counted in 32 bits with a sign, so fewer than `2 ^ 31` names are meant to be in use. -/
def nameCandidates (base : String) (count : Nat) : List String :=
  base :: (List.range count).map fun k => base ++ toString (k + 1)

/-- The first candidate for a base name that is not in use. One candidate more than there are names
in use is enough. -/
def uniqueName (used : List String) (base : String) : String :=
  let base := if base.isEmpty then "Type" else base
  ((nameCandidates base used.length).find? fun name => !used.contains name).getD base

/-- The block after a declaration with the given name has taken its place. -/
def Block.declare (block : Block) (name : String) (description : Option String) : Block :=
  { block with declarations := block.declarations ++ [⟨name, description, none⟩] }

/-- The block after the declaration at a place has its body. -/
def Block.complete (block : Block) (place : Nat) (body : Body) : Block :=
  { block with
    declarations := block.declarations.modify place fun declaration =>
      { declaration with body := some body } }

/-- Takes a name that is not in use. -/
def takeName (base : String) : Compile String := do
  let name := uniqueName (← get).used base
  modify fun block => { block with used := name :: block.used }
  return name

/-- Declares a schema under a name that has been taken. -/
def declare (body : Schema → Compile Body) (name : String) (schema : Schema) : Compile Unit := do
  let place := (← get).declarations.length
  modify fun block => block.declare name schema.description
  let body ← body schema
  modify fun block => block.complete place body

/-- The name of a titled schema. A schema that is the same as one before shares its declaration. -/
def nameTitled (body : Schema → Compile Body) (schema : Schema) (title : String) :
    Compile String := do
  match (← get).titled.find? fun entry => entry.1.same schema with
  | some (_, name) => return name
  | none =>
    let name ← takeName (Naming.typeName title)
    modify fun block => { block with titled := block.titled ++ [(schema, name)] }
    declare body name schema
    return name

/-- A declaration as text. One without a body is left out. -/
def Declaration.render (declaration : Declaration) : Option String :=
  let comment := (declaration.description.map fun text => docComment text "").getD ""
  declaration.body.map fun
    | .interface members =>
      if members.isEmpty then comment ++ "export interface " ++ declaration.name ++ " \x7b\x7d\n"
      else comment ++ "export interface " ++ declaration.name ++ " \x7b\n" ++ members ++ "\x7d\n"
    | .alias expression =>
      comment ++ "export type " ++ declaration.name ++ " = " ++ expression ++ ";\n"

/-- Declarations as text, with an empty line between neighbours and the banner above. -/
def renderBlock (banner : Option String) (declarations : List Declaration) : String :=
  let text := "\n".intercalate (declarations.filterMap Declaration.render)
  match banner with
  | some banner => banner ++ "\n" ++ text
  | none => text

end ProgramConnector.TypeScript
