import ProgramConnector.Document.Reader

/-!
# Program configurations

A configuration document gives programs a description and an explicit readonly flag. It holds its
entries under `programs`; a document without that key is itself the object of entries. A `$schema`
that is a text is kept, and any other `$schema` is ignored.
-/

namespace ProgramConnector

/-- The configuration of one program. -/
structure ProgramConfiguration where
  /-- Whether the function is marked as readonly. -/
  readonly : Option Bool := none
  /-- The description of the function. -/
  description : Option String := none
deriving DecidableEq

/-- The configurations of a project. -/
structure ProgramConfigurations where
  /-- The schema that the document names. -/
  schema : Option String := none
  /-- The entries by program identifier. -/
  programs : List (String × ProgramConfiguration) := []
deriving DecidableEq

/-- The reader of one configuration. -/
def ProgramConfiguration.reader : Reader ProgramConfiguration :=
  Reader.record {} [
    Field.of "readonly" (Reader.optional Reader.flag) fun value entry =>
      { entry with readonly := value },
    Field.of "description" (Reader.optional Reader.text) fun value entry =>
      { entry with description := value }]

namespace ProgramConfigurations

/-- The entries of the members of an object; one entry of another form spoils all. -/
def entriesOfMembers? :
    List (String × Json) → Option (List (String × ProgramConfiguration))
  | [] => some []
  | (identifier, value) :: rest => do
    return (identifier, ← ProgramConfiguration.reader.fromJson value) :: (← entriesOfMembers? rest)

/-- The entries of a value. -/
def entriesOfJson? : Json → Option (List (String × ProgramConfiguration))
  | .obj members => entriesOfMembers? members
  | _ => none

/-- The configurations of the members of a document. -/
def ofMembers? (members : List (String × Json)) : Option ProgramConfigurations := do
  let rest := Members.without "$schema" members
  let entries :=
    match Members.find? "programs" rest with
    | some value => entriesOfJson? value
    | none => entriesOfMembers? rest
  return ⟨(Members.find? "$schema" members).bind Json.text?, ← entries⟩

/-- The configurations of a text. -/
def ofText (source : String) : Except Problem ProgramConfigurations := do
  let members ← Reader.object.ofText source
  match ofMembers? members with
  | some configurations => return configurations
  | none => throw .mismatched

/-- The configuration of a program. -/
def get? (configurations : ProgramConfigurations) (identifier : String) :
    Option ProgramConfiguration :=
  Members.find? identifier configurations.programs

end ProgramConfigurations

end ProgramConnector
