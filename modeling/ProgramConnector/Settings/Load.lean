import ProgramConnector.Settings.Readers

/-!
# Loading settings

Settings come from several sources, from the weakest to the strongest: two files in the working
directory, the file of the user, a file that is named, and the environment. Every setting has the
value of the strongest source that gives one, and its default where none does. Only the named file
has to be there, but every file that is there has to be well-formed.
-/

namespace ProgramConnector

namespace Settings

/-- The files in the working directory. -/
def localFiles : List String := ["programs-codegen.toml", ".programs-codegen.toml"]

/-- The file of the user, in the directory for it. -/
def userFile : String := "programs-codegen.toml"

/-- The file of the user, if anything is there. -/
def userFiles (readers : Readers) (files : FileSystem) (environment : Environment) : List String :=
  match (readers.directory? environment).map fun directory => Path.join directory userFile with
  | some path => if files.holds path then [path] else []
  | none => []

/-- The settings of a file that has to be there. -/
def entriesOfNamedFile (readers : Readers) (files : FileSystem) (path : String) :
    Except SettingsFault (List (String × SettingValue)) := do
  match ← readers.ofFile files path with
  | some entries => return entries
  | none => throw (.missing path)

/-- The settings of a named file, if one is named. -/
def namedEntries (readers : Readers) (files : FileSystem) :
    Option String → Except SettingsFault (List (String × SettingValue))
  | some path => entriesOfNamedFile readers files path
  | none => .ok []

/-- What each source says, from the weakest to the strongest. -/
def sources (readers : Readers) (files : FileSystem) (environment : Environment)
    (path : Option String) : Except SettingsFault (List (List (String × SettingValue))) := do
  let optional ← (localFiles ++ userFiles readers files environment).mapM (readers.ofFile files)
  let named ← namedEntries readers files path
  return optional.map (·.getD []) ++ [named, readers.ofVariables environment]

/-- Sources put over one another. -/
def merged (sources : List (List (String × SettingValue))) : List (String × SettingValue) :=
  sources.foldl SettingValue.layEntries []

/-- The scalar types of a setting. -/
def scalarTypes? : SettingValue → Option TypeScript.ScalarTypes :=
  SettingField.record {} [
    SettingField.of "string" SettingValue.text? fun value types => { types with string := value },
    SettingField.of "integer" SettingValue.text? fun value types => { types with integer := value },
    SettingField.of "number" SettingValue.text? fun value types => { types with number := value },
    SettingField.of "boolean" SettingValue.text? fun value types => { types with boolean := value },
    SettingField.of "null" SettingValue.text? fun value types => { types with null := value },
    SettingField.of "any" SettingValue.text? fun value types => { types with any := value }]

/-- The rendering profile of a setting. -/
def profile? : SettingValue → Option TypeScript.Profile :=
  SettingField.record {} [
    SettingField.of "types" scalarTypes? fun value profile => { profile with types := value },
    SettingField.of "additional_properties" SettingValue.flag? fun value profile =>
      { profile with additionalProperties := value },
    SettingField.of "banner_comment" (SettingField.optional SettingValue.text?)
      fun value profile => { profile with bannerComment := value },
    SettingField.of "indent" SettingValue.text? fun value profile =>
      { profile with indent := value }]

/-- The settings of a table. -/
def ofEntries? (environment : Environment) (entries : List (String × SettingValue)) :
    Option Settings :=
  SettingField.record (initial environment) [
    SettingField.of "root" SettingValue.text? fun value settings => { settings with root := value },
    SettingField.of "programs_dir" SettingValue.text? fun value settings =>
      { settings with programsDirectory := value },
    SettingField.of "configuration_file" SettingValue.text? fun value settings =>
      { settings with configurationFile := value },
    SettingField.of "output_dir" SettingValue.text? fun value settings =>
      { settings with outputDirectory := value },
    SettingField.of "types_file" SettingValue.text? fun value settings =>
      { settings with typesFile := value },
    SettingField.of "functions_file" SettingValue.text? fun value settings =>
      { settings with functionsFile := value },
    SettingField.of "typescript" profile? fun value settings =>
      { settings with typescript := value }] (.table entries)

/-- The settings of a run. -/
def load (files : FileSystem) (environment : Environment) (path : Option String)
    (readers : Readers := .standard) : Except SettingsFault Settings := do
  match ofEntries? environment (merged (← sources readers files environment path)) with
  | some settings => return settings
  | none => throw .mismatched

end Settings

end ProgramConnector
