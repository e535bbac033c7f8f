import ProgramConnector.Files.FileSystem
import ProgramConnector.Program.Configuration
import ProgramConnector.Report.Event

/-!
# The configuration file

A configuration file that is missing, unreadable or of another form stands for no configuration at
all; it never keeps programs from being loaded.
-/

namespace ProgramConnector.Catalog

/-- What is found where the configuration file should be. -/
inductive ConfigurationFile where
  /-- Nothing. -/
  | absent
  /-- Something that cannot be read as text. -/
  | unreadable
  /-- A text that is no configuration document. -/
  | invalid
  /-- The configurations of a project. -/
  | loaded (configurations : ProgramConfigurations)

namespace ConfigurationFile

/-- What is found at a path. -/
def ofPath (files : FileSystem) (path : String) : ConfigurationFile :=
  match files.readText path with
  | .error _ => if files.holds path then .unreadable else .absent
  | .ok source =>
    match ProgramConfigurations.ofText source with
    | .ok configurations => .loaded configurations
    | .error _ => .invalid

/-- The configurations that apply. -/
def configurations : ConfigurationFile → ProgramConfigurations
  | .loaded configurations => configurations
  | .absent => {}
  | .unreadable => {}
  | .invalid => {}

/-- What is reported about the configuration file. -/
def event : ConfigurationFile → Event
  | .absent => ⟨.debug, .loader, "No program configuration file"⟩
  | .unreadable => ⟨.warn, .loader, "Failed to read program configuration"⟩
  | .invalid => ⟨.warn, .loader, "Ignoring invalid program configuration"⟩
  | .loaded _ => ⟨.debug, .loader, "Loaded program configuration"⟩

end ConfigurationFile

end ProgramConnector.Catalog
