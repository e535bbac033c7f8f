import ProgramConnector.Catalog.Load
import ProgramConnector.Connector
import ProgramConnector.Project.Action
import ProgramConnector.Settings.Basic

/-!
# Updates

An update loads the programs of a project and writes its two modules. Both texts are complete before
the first of them is written.
-/

namespace ProgramConnector.Project

/-- What an update has done. -/
structure UpdateSummary where
  /-- The number of programs. -/
  programCount : Nat
  /-- The types module. -/
  typesPath : String
  /-- The functions module. -/
  functionsPath : String
deriving DecidableEq

/-- The connector of the programs that the settings name. -/
def connectorOf (files : FileSystem) (settings : Settings) (options : Wrapper.Options) :
    Except Failure Connector := do
  let programs ← Catalog.load files settings.programsPath (some settings.configurationPath)
  Connector.ofPrograms settings.typescript options programs

/-- What is reported about the types of programs, up to the first program that fails. -/
def compileEvents (profile : TypeScript.Profile) (programs : List Program) : List Event :=
  (programs.takeWhile fun program => (Connector.programBlocks profile program).toBool).map fun _ =>
    ⟨.debug, .codegen, "Compiled types"⟩

/-- What is reported before the modules are written. -/
def readingEvents (files : FileSystem) (settings : Settings) : List Event :=
  Catalog.loadEvents files settings.programsPath (some settings.configurationPath)
    ++ match Catalog.load files settings.programsPath (some settings.configurationPath) with
      | .ok programs => compileEvents settings.typescript programs
      | .error _ => []

/-- Loads the programs of a project and writes its modules. -/
def update (settings : Settings) (options : Wrapper.Options) : Action UpdateSummary := do
  Action.report [⟨.info, .pipeline, "Reading program artifacts"⟩]
  let files ← Action.files
  Action.report (readingEvents files settings)
  let connector ← Action.ofExcept (connectorOf files settings options)
  Action.writeOutput settings.typesPath connector.types
  Action.writeOutput settings.functionsPath connector.functions
  Action.report [⟨.info, .pipeline, "Generated program functions"⟩]
  return ⟨connector.programCount, settings.typesPath, settings.functionsPath⟩

end ProgramConnector.Project
