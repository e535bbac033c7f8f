import ProgramConnector.Files.Path
import ProgramConnector.TypeScript.Profile

/-!
# Settings

Where a project stands, which files an update reads and writes, and how types are rendered. Relative
paths are taken from the root of the project, and the two modules stand in the output directory.
-/

namespace ProgramConnector

/-- The settings of a project. -/
structure Settings where
  /-- The directory of the project. -/
  root : String := "."
  /-- The directory of the artifact files. -/
  programsDirectory : String := "programs"
  /-- The configuration file. -/
  configurationFile : String := "configuration.json"
  /-- The directory of the generated modules. -/
  outputDirectory : String := "."
  /-- The name of the types module. -/
  typesFile : String := "types.ts"
  /-- The name of the functions module. -/
  functionsFile : String := "functions.ts"
  /-- The rendering profile. -/
  typescript : TypeScript.Profile := {}
deriving DecidableEq

/-- The variables of the environment of a run, by name. -/
abbrev Environment := List (String × String)

namespace Settings

/-- The variable that names the directory of a project. -/
def directoryVariable : String := "HASURA_CONFIGURATION_DIRECTORY"

/-- The settings when nothing is set but the environment. -/
def initial (environment : Environment) : Settings :=
  match Members.find? directoryVariable environment with
  | some directory => if directory.isEmpty then {} else { root := directory }
  | none => {}

/-- The reader of a settings document. -/
def reader (environment : Environment) : Reader Settings :=
  Reader.record (initial environment) [
    Field.of "root" Reader.text fun value settings => { settings with root := value },
    Field.of "programs_dir" Reader.text fun value settings =>
      { settings with programsDirectory := value },
    Field.of "configuration_file" Reader.text fun value settings =>
      { settings with configurationFile := value },
    Field.of "output_dir" Reader.text fun value settings =>
      { settings with outputDirectory := value },
    Field.of "types_file" Reader.text fun value settings => { settings with typesFile := value },
    Field.of "functions_file" Reader.text fun value settings =>
      { settings with functionsFile := value },
    Field.of "typescript" TypeScript.Profile.reader fun value settings =>
      { settings with typescript := value }]

/-- A path taken from the root. -/
def resolve (settings : Settings) (path : String) : String := Path.join settings.root path

/-- The directory of the artifact files. -/
def programsPath (settings : Settings) : String := settings.resolve settings.programsDirectory

/-- The configuration file. -/
def configurationPath (settings : Settings) : String := settings.resolve settings.configurationFile

/-- The directory of the generated modules. -/
def outputPath (settings : Settings) : String := settings.resolve settings.outputDirectory

/-- The types module. -/
def typesPath (settings : Settings) : String := Path.join settings.outputPath settings.typesFile

/-- The functions module. -/
def functionsPath (settings : Settings) : String :=
  Path.join settings.outputPath settings.functionsFile

end Settings

end ProgramConnector
