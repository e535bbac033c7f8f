import ProgramConnector.Document.Reader
import ProgramConnector.Schema.Document

/-!
# Program artifacts

An artifact holds a program's code and the schemas of its input and output. Texts that are missing
or null are empty and schemas that are missing or null are absent, so that the check of a project,
and not the reader, says which field is missing.
-/

namespace ProgramConnector

/-- The code of a program with the contracts of its input and output. -/
structure ProgramBody where
  /-- The code. -/
  code : String := ""
  /-- The schema of the input. -/
  inputSchema : Option Schema := none
  /-- The schema of the output. -/
  outputSchema : Option Schema := none

/-- A program as it was exported. -/
structure Artifact where
  /-- The identifier under which the program is configured. -/
  identifier : String := ""
  /-- The title. -/
  title : String := ""
  /-- The kind of artifact. -/
  artifactType : String := ""
  /-- The code and its contracts. -/
  body : ProgramBody := {}

/-- A schema is read whole before its form is looked at. -/
def Schema.reader : Reader Schema := Reader.whole Schema.ofJson?

/-- The reader of program bodies. -/
def ProgramBody.reader : Reader ProgramBody :=
  Reader.record {} [
    Field.of "code" Reader.textOrNull fun value body => { body with code := value },
    Field.of "input_schema" (Reader.optional Schema.reader) fun value body =>
      { body with inputSchema := value },
    Field.of "output_schema" (Reader.optional Schema.reader) fun value body =>
      { body with outputSchema := value }]

/-- The reader of artifacts. -/
def Artifact.reader : Reader Artifact :=
  Reader.record {} [
    Field.of "identifier" Reader.textOrNull fun value artifact =>
      { artifact with identifier := value },
    Field.of "title" Reader.textOrNull fun value artifact => { artifact with title := value },
    Field.of "artifact_type" Reader.textOrNull fun value artifact =>
      { artifact with artifactType := value },
    Field.of "data" ProgramBody.reader fun value artifact => { artifact with body := value }]

/-- The artifact of a text. -/
def Artifact.ofText (source : String) : Except Problem Artifact := Artifact.reader.ofText source

end ProgramConnector
