import ProgramConnector.Failure
import ProgramConnector.Program.Basic
import ProgramConnector.Text.Classes

/-!
# Checks of loaded programs

The function names of all programs have to differ, every program has to be complete, and its title
has to give the name of a function: not empty, and not starting with a numeric character.
-/

namespace ProgramConnector.Catalog

/-- The first program whose function name is one of `seen` or that of an earlier program. -/
def firstRepeated (seen : List String) : List Program → Option Program
  | [] => none
  | program :: rest =>
    if seen.contains program.names.function then some program
    else firstRepeated (program.names.function :: seen) rest

/-- All function names differ. -/
def checkNames (programs : List Program) : Except Failure Unit :=
  match firstRepeated [] programs with
  | some program => .error (.duplicateName program.title program.file)
  | none => .ok ()

/-- The first field that an artifact lacks. -/
def missingField? (artifact : Artifact) : Option String :=
  if artifact.title.isEmpty then some "title"
  else if artifact.artifactType.isEmpty then some "artifact_type"
  else if artifact.body.inputSchema.isNone then some "input_schema"
  else if artifact.body.outputSchema.isNone then some "output_schema"
  else if artifact.body.code.isEmpty then some "code"
  else none

/-- Whether a text can be the name of a function. -/
def isFunctionName (name : String) : Bool :=
  match name.toList with
  | [] => false
  | first :: _ => !Text.isNumeric first

/-- A program is complete and its title gives the name of a function. -/
def checkProgram (program : Program) : Except Failure Unit :=
  match missingField? program.artifact with
  | some field => .error (.missingField field program.file)
  | none =>
    if isFunctionName program.names.function then .ok ()
    else .error (.invalidName program.title program.names.function program.file)

end ProgramConnector.Catalog
