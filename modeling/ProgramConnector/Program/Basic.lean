import ProgramConnector.Program.Artifact
import ProgramConnector.Program.Configuration
import ProgramConnector.Naming.Identifiers

/-!
# Programs

A program is an artifact together with the file that it came from and its configuration.
-/

namespace ProgramConnector

/-- An artifact of a file with its configuration, if it has one. -/
structure Program where
  /-- The file. -/
  file : String
  /-- The artifact. -/
  artifact : Artifact
  /-- The configuration. -/
  configuration : Option ProgramConfiguration := none

namespace Program

/-- The title. -/
def title (program : Program) : String := program.artifact.title

/-- The code. -/
def code (program : Program) : String := program.artifact.body.code

/-- The names derived from the title. -/
def names (program : Program) : DerivedNames := DerivedNames.ofTitle program.title

/-- The explicit readonly flag, or else the given one. -/
def readonlyOr (program : Program) (default : Bool) : Bool :=
  (program.configuration.bind (·.readonly)).getD default

/-- The description, unless it is empty. -/
def description (program : Program) : Option String :=
  (program.configuration.bind (·.description)).filter fun text => !text.isEmpty

end Program

end ProgramConnector
