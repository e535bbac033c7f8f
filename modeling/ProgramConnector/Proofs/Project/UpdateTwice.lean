import ProgramConnector.Proofs.Catalog.Reloading
import ProgramConnector.Proofs.Project.UpdateEffect

/-!
# Updating twice

An update that is run again finds the programs that it found before, even where it has written its
modules among them, and writes what is there already. That needs outputs which no update reads, and
a configuration file whose path does not go up from a directory that the first update has made: such
a path leads nowhere at first, and to a file later on.
-/

namespace ProgramConnector.Project

open ProgramConnector.Action FileSystem

/-- Outputs at different places, where neither artifact files nor the configuration file are. -/
structure HasOwnOutputs (files : FileSystem) (settings : Settings) : Prop where
  /-- The modules are different files. -/
  apart : files.location settings.typesPath ≠ files.location settings.functionsPath
  /-- The types module is no artifact file. -/
  typesName : ¬ ".json".toList <:+ settings.typesPath.toList
  /-- The functions module is no artifact file. -/
  functionsName : ¬ ".json".toList <:+ settings.functionsPath.toList
  /-- The types module is not the configuration file. -/
  types : files.location settings.typesPath ≠ files.location settings.configurationPath
  /-- The functions module is not the configuration file. -/
  functions : files.location settings.functionsPath ≠ files.location settings.configurationPath

section Twice

variable {files later : FileSystem} {settings : Settings} {options : Wrapper.Options}
  {connector : Connector}

/-- A file whose path does not end like that of an artifact file has a quiet name. -/
theorem isQuietName_of_holds {path text : String} {mode : Nat} (h : later.IsPlain)
    (hfile : later.Holds path text mode) (hpath : ¬ ".json".toList <:+ path.toList) :
    ∀ name ∈ (later.location path).getLast?, Catalog.IsQuietName name := by
  obtain ⟨-, -, above, name, hlocation, hname, hsuffix⟩ := h.location_of_file hfile.node
  rw [hlocation, List.getLast?_concat]
  intro other hother
  cases Option.mem_some.1 hother
  obtain ⟨hslash, hvoid, hup⟩ := Path.fileName?_spec hname
  refine ⟨hslash, hvoid, hup, fun hextension => hpath ?_⟩
  exact (Path.suffix_of_extensionOfName? hextension).trans hsuffix

/-- The programs of updated files are those of the files before. -/
theorem connectorOf_of_isUpdated (h : files.IsPlain) (hown : HasOwnOutputs files settings)
    (hleaves : LeavesOld files.entryAt? later.entryAt?
      (startOf files.current settings.configurationPath) (steps settings.configurationPath))
    (hconnector : connectorOf files settings options = .ok connector)
    (hupdated : IsUpdated files settings connector later) :
    connectorOf later settings options = .ok connector := by
  obtain ⟨programs, hload, hgenerate⟩ := connectorOf_eq_ok_iff.1 hconnector
  have hlater := hupdated.changes.isPlain h
  have hquiet : ∀ location, IsOutput files settings location →
      ∀ name ∈ location.getLast?, Catalog.IsQuietName name := by
    rintro location (htypes | hfunctions)
    · rw [htypes, ← hupdated.changes.location_eq]
      exact isQuietName_of_holds hlater hupdated.types hown.typesName
    · rw [hfunctions, ← hupdated.changes.location_eq]
      exact isQuietName_of_holds hlater hupdated.functions hown.functionsName
  have hconfiguration : ¬ IsOutput files settings (files.location settings.configurationPath) := by
    rintro (htypes | hfunctions)
    · exact hown.types htypes.symm
    · exact hown.functions hfunctions.symm
  exact connectorOf_eq_ok_iff.2 ⟨programs,
    Catalog.load_of_changes hupdated.changes h hquiet hconfiguration hleaves hload, hgenerate⟩

/-- Modules that are there already are written without a change. -/
theorem runIn_writeModules_of_holds
    (htypes : later.Holds settings.typesPath connector.types outputMode)
    (hfunctions : later.Holds settings.functionsPath connector.functions outputMode)
    (events : List Event) : ∃ reported,
    runIn ⟨later, events⟩ (writeModules settings connector) = (.ok (), ⟨later, reported⟩) := by
  unfold writeModules
  rw [runIn_bind, runIn_writeOutput_of_holds htypes]
  dsimp only
  rw [runIn_writeOutput_of_holds hfunctions]
  exact ⟨_, rfl⟩

/-- In a file system without links, an update that has succeeded succeeds again with the same
summary and changes no file, when its outputs are its own and the path of the configuration file does
not go up from a directory that the first update has made. -/
theorem update_again {summary : UpdateSummary} {events : List Event} {after : World}
    (h : files.IsPlain) (hown : HasOwnOutputs files settings)
    (hfirst : runIn ⟨files, events⟩ (update settings options) = (.ok summary, after))
    (hleaves : LeavesOld files.entryAt? after.files.entryAt?
      (startOf files.current settings.configurationPath) (steps settings.configurationPath))
    (again : List Event) : ∃ reported,
    runIn ⟨after.files, again⟩ (update settings options) =
      (.ok summary, ⟨after.files, reported⟩) := by
  cases hconnector : connectorOf files settings options with
  | error failure =>
    have hfailed := (update_of_error hconnector events).1
    rw [hfirst] at hfailed
    exact nomatch hfailed
  | ok connector =>
    have hresult := update_of_ok h hown.apart hconnector events
    rw [hfirst] at hresult
    rcases hresult with ⟨path, -, fault, hio⟩ | ⟨hok, hupdated⟩
    · exact nomatch hio
    · cases hok
      obtain ⟨before, hrun⟩ := runIn_update after.files settings options again
      obtain ⟨written, hwrite⟩ := runIn_writeModules_of_holds hupdated.types
        hupdated.functions before
      rw [hrun, connectorOf_of_isUpdated h hown hleaves hconnector hupdated]
      dsimp only
      rw [hwrite]
      exact ⟨_, rfl⟩

/-- Settings with the modules among the artifacts. -/
def amongSettings : Settings := { outputDirectory := "programs" }

/-- Modules that are written among the artifacts are written there again. -/
theorem update_again_countFiles : countFiles.IsPlain ∧ HasOwnOutputs countFiles amongSettings ∧
    ∃ summary after, runIn ⟨countFiles, []⟩ (update amongSettings {}) = (.ok summary, after) ∧
      LeavesOld countFiles.entryAt? after.files.entryAt?
        (startOf countFiles.current amongSettings.configurationPath)
        (steps amongSettings.configurationPath) ∧
      ∃ reported, runIn after (update amongSettings {}) =
        (.ok summary, ⟨after.files, reported⟩) := by
  have hown : HasOwnOutputs countFiles amongSettings := by
    constructor <;> decide
  have hresult : (runIn ⟨countFiles, []⟩ (update amongSettings {})).1 =
      .ok ⟨1, "./programs/types.ts", "./programs/functions.ts"⟩ :=
    eq_ok_of_toOption (by decide +kernel)
  have hfirst : runIn ⟨countFiles, []⟩ (update amongSettings {}) =
      (.ok ⟨1, "./programs/types.ts", "./programs/functions.ts"⟩,
        (runIn ⟨countFiles, []⟩ (update amongSettings {})).2) := Prod.ext hresult rfl
  have hleaves (later : List String → Option Entry) : LeavesOld countFiles.entryAt? later
      (startOf countFiles.current amongSettings.configurationPath)
      (steps amongSettings.configurationPath) := by
    intro front behind hsteps
    have hstraight : ".." ∉ steps amongSettings.configurationPath := by decide
    exact absurd (by simp [hsteps]) hstraight
  exact ⟨isPlain_countFiles, hown, _, _, hfirst, hleaves _,
    update_again isPlain_countFiles hown hfirst (hleaves _) _⟩

/-- An artifact and a configuration file beside it. -/
def detourFiles : FileSystem :=
  ⟨.directory [("programs", .directory [("a.json", Catalog.artifactFile "Count")]),
    ("configuration.json",
      .file "\x7b\"\":\x7b\"readonly\":false\x7d\x7d".toUTF8 newFileMode)], []⟩

/-- Settings that name the configuration file by way of the directory of the outputs. -/
def detourSettings : Settings :=
  { configurationFile := "gen/../configuration.json", outputDirectory := "gen" }

/-- There is no link among these files. -/
theorem isPlain_detourFiles : detourFiles.IsPlain := by
  refine ⟨Node.isUnlinked_directory (List.forall_mem_cons.2 ⟨?_, ?_⟩), by rfl⟩
  · exact Node.isUnlinked_directory (List.forall_mem_singleton.2 (Node.isUnlinked_file _ _))
  · exact List.forall_mem_singleton.2 (Node.isUnlinked_file _ _)

/-- What an update with these settings does to a world. -/
def detourResult (world : World) : Except Failure UpdateSummary × World :=
  runIn world (update detourSettings {})

/-- The size of the functions module that these settings name. -/
def functionsSize (files : FileSystem) : Option Nat :=
  (files.read detourSettings.functionsPath).toOption.map ByteArray.size

/-- The first update makes the directory by way of which the second one finds the configuration
file, and so the second one writes another module. -/
theorem update_detour : detourFiles.IsPlain ∧ HasOwnOutputs detourFiles detourSettings ∧
    ∃ summary after, detourResult ⟨detourFiles, []⟩ = (.ok summary, after) ∧
      ∀ reported, detourResult after ≠ (.ok summary, ⟨after.files, reported⟩) := by
  have hown : HasOwnOutputs detourFiles detourSettings := by
    constructor <;> decide
  have hresult : (detourResult ⟨detourFiles, []⟩).1 =
      .ok ⟨1, "./gen/types.ts", "./gen/functions.ts"⟩ := eq_ok_of_toOption (by decide +kernel)
  have hsize : functionsSize (detourResult (detourResult ⟨detourFiles, []⟩).2).2.files ≠
      functionsSize (detourResult ⟨detourFiles, []⟩).2.files := by decide +kernel
  refine ⟨isPlain_detourFiles, hown, ?_⟩
  generalize detourResult ⟨detourFiles, []⟩ = first at hresult hsize ⊢
  obtain ⟨result, after⟩ := first
  refine ⟨_, after, Prod.ext hresult rfl, fun reported hagain => hsize ?_⟩
  have hsame : functionsSize (detourResult after).2.files = functionsSize after.files := by
    rw [hagain]
  exact hsame

end Twice

end ProgramConnector.Project
