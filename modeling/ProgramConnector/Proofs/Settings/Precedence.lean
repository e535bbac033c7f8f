import ProgramConnector.Proofs.Settings.Records
import ProgramConnector.Settings.Load

/-!
# Which source decides a setting

Settings are a record, with the rendering profile and the scalar types as records inside. So every
leaf has the value of the strongest source that has one for this leaf, and its default where no
source has one, whatever the sources say about other leaves of the same table.
-/

namespace ProgramConnector

namespace Settings

/-! ## The leaves -/

/-- The directory of a project when no source names one: that of the variable for it, unless this is
empty, and else the working directory. -/
def defaultRoot (environment : Environment) : String :=
  match Members.find? "HASURA_CONFIGURATION_DIRECTORY" environment with
  | some directory => if directory = "" then "." else directory
  | none => "."

/-- The scalar types. -/
def scalarParts : List (RecordPart TypeScript.ScalarTypes) := [
  ⟨String, "string", SettingValue.text?, (·.string),
    fun value types => { types with string := value }, "string"⟩,
  ⟨String, "integer", SettingValue.text?, (·.integer),
    fun value types => { types with integer := value }, "number"⟩,
  ⟨String, "number", SettingValue.text?, (·.number),
    fun value types => { types with number := value }, "number"⟩,
  ⟨String, "boolean", SettingValue.text?, (·.boolean),
    fun value types => { types with boolean := value }, "boolean"⟩,
  ⟨String, "null", SettingValue.text?, (·.null), fun value types => { types with null := value },
    "null"⟩,
  ⟨String, "any", SettingValue.text?, (·.any), fun value types => { types with any := value },
    "unknown"⟩]

/-- The leaves of a rendering profile. -/
def profileParts : List (RecordPart TypeScript.Profile) := [
  ⟨Bool, "additional_properties", SettingValue.flag?, (·.additionalProperties),
    fun value profile => { profile with additionalProperties := value }, false⟩,
  ⟨Option String, "banner_comment", SettingField.optional SettingValue.text?, (·.bannerComment),
    fun value profile => { profile with bannerComment := value }, none⟩,
  ⟨String, "indent", SettingValue.text?, (·.indent),
    fun value profile => { profile with indent := value }, "  "⟩]

/-- The leaves of settings that are in no other table. -/
def settingsParts (environment : Environment) : List (RecordPart Settings) := [
  ⟨String, "root", SettingValue.text?, (·.root),
    fun value settings => { settings with root := value }, defaultRoot environment⟩,
  ⟨String, "programs_dir", SettingValue.text?, (·.programsDirectory),
    fun value settings => { settings with programsDirectory := value }, "programs"⟩,
  ⟨String, "configuration_file", SettingValue.text?, (·.configurationFile),
    fun value settings => { settings with configurationFile := value }, "configuration.json"⟩,
  ⟨String, "output_dir", SettingValue.text?, (·.outputDirectory),
    fun value settings => { settings with outputDirectory := value }, "."⟩,
  ⟨String, "types_file", SettingValue.text?, (·.typesFile),
    fun value settings => { settings with typesFile := value }, "types.ts"⟩,
  ⟨String, "functions_file", SettingValue.text?, (·.functionsFile),
    fun value settings => { settings with functionsFile := value }, "functions.ts"⟩]

/-- A leaf of settings at its path of keys. -/
structure Leaf where
  /-- What the leaf is. -/
  Form : Type
  /-- The keys that lead to the leaf. -/
  path : List String
  /-- The leaf of a value, if the value has the right form. -/
  take? : SettingValue → Option Form
  /-- The leaf of settings. -/
  get : Settings → Form
  /-- The leaf where no source has a value. -/
  default : Form

/-- A part of a record inside settings, as a leaf. -/
def leafOf {α : Type} (front : List String) (inner : Settings → α) (part : RecordPart α) : Leaf :=
  ⟨part.Form, front ++ [part.name], part.take?, fun settings => part.get (inner settings),
    part.default⟩

/-- All leaves of settings. -/
def leaves (environment : Environment) : List Leaf :=
  (settingsParts environment).map (leafOf [] id) ++
    profileParts.map (leafOf ["typescript"] Settings.typescript) ++
    scalarParts.map (leafOf ["typescript", "types"] fun settings => settings.typescript.types)

example (environment : Environment) : (leaves environment).map Leaf.path =
    [["root"], ["programs_dir"], ["configuration_file"], ["output_dir"], ["types_file"],
      ["functions_file"], ["typescript", "additional_properties"], ["typescript", "banner_comment"],
      ["typescript", "indent"], ["typescript", "types", "string"],
      ["typescript", "types", "integer"], ["typescript", "types", "number"],
      ["typescript", "types", "boolean"], ["typescript", "types", "null"],
      ["typescript", "types", "any"]] := by
  rfl

section Parts

end Parts

/-! ## Valid entries -/

/-- Entries with tables where tables are expected, and with values of the right form at the
leaves. -/
structure IsValid (environment : Environment) (entries : List (String × SettingValue)) : Prop where
  /-- The rendering profile and the scalar types are tables. -/
  nested : ∀ path ∈ [["typescript"], ["typescript", "types"]],
    ∀ value ∈ SettingValue.valuesAt path entries, value.isTable = true
  /-- Every leaf can be taken from its values. -/
  taken : ∀ leaf ∈ leaves environment, ∀ value ∈ SettingValue.valuesAt leaf.path entries,
    (leaf.take? value).isSome = true

instance (environment : Environment) (entries : List (String × SettingValue)) :
    Decidable (IsValid environment entries) :=
  decidable_of_iff (_ ∧ _) ⟨fun h => ⟨h.1, h.2⟩, fun h => ⟨h.nested, h.taken⟩⟩

section Valid

variable {environment : Environment} {entries : List (String × SettingValue)}

/-- The entries of several sources are valid when those of each are. -/
theorem IsValid.flatten {sources : List (List (String × SettingValue))}
    (h : ∀ source ∈ sources, IsValid environment source) : IsValid environment sources.flatten := by
  constructor
  · intro path hpath value hvalue
    rw [SettingValue.valuesAt_flatten] at hvalue
    obtain ⟨source, hsource, hvalue⟩ := List.mem_flatMap.1 hvalue
    exact (h source hsource).nested path hpath value hvalue
  · intro leaf hleaf value hvalue
    rw [SettingValue.valuesAt_flatten] at hvalue
    obtain ⟨source, hsource, hvalue⟩ := List.mem_flatMap.1 hvalue
    exact (h source hsource).taken leaf hleaf value hvalue

end Valid

/-! ## The sources -/

/-- A source of settings. -/
inductive Source where
  /-- The variables of the environment. -/
  | environment
  /-- The file that is named. -/
  | named
  /-- The file of the user. -/
  | user
  /-- The hidden file in the working directory. -/
  | hidden
  /-- The other file in the working directory. -/
  | plain

/-- All sources, from the strongest to the weakest. -/
def Source.all : List Source := [.environment, .named, .user, .hidden, .plain]

/-- The settings of a file that may be missing. -/
def entriesOfOptionalFile (readers : Readers) (files : FileSystem) (path : String) :
    Except SettingsFault (List (String × SettingValue)) :=
  (readers.ofFile files path).map (·.getD [])

/-- What a source says, as it is read; one that is missing says nothing. -/
def Source.entries (readers : Readers) (files : FileSystem) (environment : Environment)
    (path : Option String) : Source → Except SettingsFault (List (String × SettingValue))
  | .environment => .ok (readers.ofVariables environment)
  | .named => namedEntries readers files path
  | .user =>
    match userFiles readers files environment with
    | file :: _ => entriesOfOptionalFile readers files file
    | [] => .ok []
  | .hidden => entriesOfOptionalFile readers files ".programs-codegen.toml"
  | .plain => entriesOfOptionalFile readers files "programs-codegen.toml"

section Sources

variable {readers : Readers} {files : FileSystem} {environment : Environment}
  {path : Option String} {given : Source → List (String × SettingValue)}

end Sources

end Settings

end ProgramConnector
