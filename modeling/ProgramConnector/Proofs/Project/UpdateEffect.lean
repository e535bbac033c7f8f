import ProgramConnector.Project.Update
import ProgramConnector.Proofs.Catalog.Acceptance
import ProgramConnector.Proofs.Project.Writing

/-!
# What an update does to files

An update that fails before it writes leaves all files alone. One that succeeds has written the two
modules of the programs that were there before, and nothing else but directories above them.
-/

namespace ProgramConnector.Project

open ProgramConnector.Action FileSystem

/-- A location where an update may make a directory: one that a path above an output denotes. -/
def IsAboveOutput (files : FileSystem) (settings : Settings) (location : List String) : Prop :=
  ∃ path ∈ pathsAbove settings.typesPath ++ pathsAbove settings.functionsPath,
    location = files.location path

/-- The location of one of the outputs. -/
def IsOutput (files : FileSystem) (settings : Settings) (location : List String) : Prop :=
  location = files.location settings.typesPath ∨ location = files.location settings.functionsPath

/-- The paths that a failed write may name. -/
def outputPaths (settings : Settings) : List String :=
  settings.typesPath :: pathsAbove settings.typesPath ++
    settings.functionsPath :: pathsAbove settings.functionsPath

/-- Files that hold the modules of a connector, and are otherwise what they were before. -/
structure IsUpdated (files : FileSystem) (settings : Settings) (connector : Connector)
    (later : FileSystem) : Prop where
  /-- The types module, which any user may write again. -/
  types : later.Holds settings.typesPath connector.types 0o666
  /-- The functions module, which any user may write again. -/
  functions : later.Holds settings.functionsPath connector.functions 0o666
  /-- The files have come about by making directories above outputs and writing outputs. -/
  changes : Changes (IsAboveOutput files settings) (IsOutput files settings) files later
  /-- Anything else is what it was, but that a directory above an output may have been made where
  nothing was. -/
  others : ∀ location, ¬ IsOutput files settings location →
    later.entryAt? location = files.entryAt? location ∨
      IsAboveOutput files settings location ∧ files.entryAt? location = none ∧
        later.entryAt? location = some .directory

/-- Writes both modules. -/
def writeModules (settings : Settings) (connector : Connector) : Action Unit := do
  writeOutput settings.typesPath connector.types
  writeOutput settings.functionsPath connector.functions

section Update

variable {files later : FileSystem} {settings : Settings} {options : Wrapper.Options}
  {connector : Connector}

/-- An update writes the modules once they are complete. -/
theorem runIn_update (files : FileSystem) (settings : Settings) (options : Wrapper.Options)
    (events : List Event) : ∃ before : List Event,
    runIn ⟨files, events⟩ (update settings options) =
      match connectorOf files settings options with
      | .error failure => (.error failure, ⟨files, before⟩)
      | .ok connector =>
        match runIn ⟨files, before⟩ (writeModules settings connector) with
        | (.error failure, after) => (.error failure, after)
        | (.ok (), after) =>
          (.ok ⟨connector.programCount, settings.typesPath, settings.functionsPath⟩,
            { after with events := after.events ++
              [⟨.info, .pipeline, "Generated program functions"⟩] }) := by
  refine ⟨events ++ [⟨.info, .pipeline, "Reading program artifacts"⟩] ++
    readingEvents files settings, ?_⟩
  unfold update
  rw [runIn_bind, runIn_report]
  dsimp only
  rw [runIn_bind]
  change (match (Except.ok files, World.mk files _) with
    | (.ok value, after) => runIn after _
    | (.error failure, after) => (.error failure, after)) = _
  dsimp only
  rw [runIn_bind, runIn_report]
  dsimp only
  rw [runIn_bind, runIn_ofExcept]
  cases connectorOf files settings options with
  | error failure => rfl
  | ok connector =>
    dsimp only
    unfold writeModules
    simp only [runIn_bind]
    rcases runIn _ (writeOutput settings.typesPath connector.types) with ⟨_ | _, after⟩
    · rfl
    · dsimp only
      rcases runIn after (writeOutput settings.functionsPath connector.functions) with ⟨_ | _, _⟩
      · rfl
      · rfl

/-- Writing both modules makes directories above them and writes them, and both are there
afterwards. -/
theorem writes_modules (connector : Connector) (world : World) (h : world.files.IsPlain)
    (hapart : world.files.location settings.typesPath ≠
      world.files.location settings.functionsPath) :
    Writes (IsAboveOutput world.files settings) (IsOutput world.files settings)
      (outputPaths settings) world (writeModules settings connector)
      fun later => later.Holds settings.typesPath connector.types outputMode ∧
        later.Holds settings.functionsPath connector.functions outputMode := by
  have htypes : Writes (IsAboveOutput world.files settings) (IsOutput world.files settings)
      (outputPaths settings) world (writeOutput settings.typesPath connector.types)
      fun later => later.Holds settings.typesPath connector.types outputMode := by
    refine writes_writeOutput h (fun above habove => ?_) (.inl rfl) (by simp [outputPaths])
      fun above habove => by simp [outputPaths, habove]
    exact ⟨above, List.mem_append_left _ habove, rfl⟩
  refine htypes.bind fun after hafter hholds => ?_
  -- The second module is written at its own location alone, so the first one stays.
  have hafterPlain := hafter.isPlain h
  have hfunctions : Writes (IsAboveOutput world.files settings)
      (fun location => location = world.files.location settings.functionsPath)
      (outputPaths settings) after (writeOutput settings.functionsPath connector.functions)
      fun later => later.Holds settings.functionsPath connector.functions outputMode := by
    refine writes_writeOutput hafterPlain (fun above habove => ?_) (hafter.location_eq _)
      (by simp [outputPaths]) fun above habove => by simp [outputPaths, habove]
    exact ⟨above, List.mem_append_right _ habove, hafter.location_eq above⟩
  refine hfunctions.imp (fun _ hmade => hmade) (fun _ hwritten => .inr hwritten)
    (fun _ hpath => hpath) fun later hlater hdone => ⟨?_, hdone⟩
  refine hlater.holds hafterPlain hholds ?_
  rw [hafter.location_eq]
  exact hapart

/-- Changes that leave both modules in place are those of an update. -/
theorem isUpdated_of_changes
    (hchanges : Changes (IsAboveOutput files settings) (IsOutput files settings) files later)
    (htypes : later.Holds settings.typesPath connector.types outputMode)
    (hfunctions : later.Holds settings.functionsPath connector.functions outputMode) :
    IsUpdated files settings connector later := by
  refine ⟨htypes, hfunctions, hchanges, fun location hother => ?_⟩
  have hbecomes := hchanges.becomes location
  generalize files.entryAt? location = old at hbecomes ⊢
  generalize later.entryAt? location = new at hbecomes ⊢
  cases hbecomes with
  | same => exact .inl rfl
  | made allowed => exact .inr ⟨allowed, rfl, rfl⟩
  | written allowed _ => exact absurd allowed hother

/-- There are modules when programs are loaded and their modules can be made. -/
theorem connectorOf_eq_ok_iff : connectorOf files settings options = .ok connector ↔
    ∃ programs, Catalog.load files settings.programsPath (some settings.configurationPath) =
      .ok programs ∧ Connector.ofPrograms settings.typescript options programs = .ok connector := by
  unfold connectorOf
  cases Catalog.load files settings.programsPath (some settings.configurationPath) with
  | error failure => simp [bind, Except.bind]
  | ok programs => simp [bind, Except.bind]

/-- There are no modules when programs cannot be loaded or their modules cannot be made. -/
theorem connectorOf_eq_error_iff {failure : Failure} :
    connectorOf files settings options = .error failure ↔
      Catalog.load files settings.programsPath (some settings.configurationPath) = .error failure ∨
      ∃ programs, Catalog.load files settings.programsPath (some settings.configurationPath) =
        .ok programs ∧
        Connector.ofPrograms settings.typescript options programs = .error failure := by
  unfold connectorOf
  cases Catalog.load files settings.programsPath (some settings.configurationPath) with
  | error failure => simp [bind, Except.bind]
  | ok programs => simp [bind, Except.bind]

/-- Modules come with the number of their programs. -/
theorem programCount_of_ofPrograms {programs : List Program}
    (h : Connector.ofPrograms settings.typescript options programs = .ok connector) :
    connector.programCount = programs.length := by
  obtain ⟨types, -, hconnector⟩ := bind_eq_ok h
  cases hconnector
  rfl

/-- Without modules no file is changed. -/
theorem update_of_error {failure : Failure}
    (hconnector : connectorOf files settings options = .error failure) (events : List Event) :
    (runIn ⟨files, events⟩ (update settings options)).1 = .error failure ∧
      (runIn ⟨files, events⟩ (update settings options)).2.files = files := by
  obtain ⟨before, hrun⟩ := runIn_update files settings options events
  rw [hrun, hconnector]
  exact ⟨rfl, rfl⟩

/-- With modules, the update writes them or names what it could not write. -/
theorem update_of_ok (h : files.IsPlain)
    (hapart : files.location settings.typesPath ≠ files.location settings.functionsPath)
    (hconnector : connectorOf files settings options = .ok connector) (events : List Event) :
    (∃ path ∈ outputPaths settings, ∃ fault,
      (runIn ⟨files, events⟩ (update settings options)).1 = .error (.io path fault)) ∨
    (runIn ⟨files, events⟩ (update settings options)).1 =
        .ok ⟨connector.programCount, settings.typesPath, settings.functionsPath⟩ ∧
      IsUpdated files settings connector
        (runIn ⟨files, events⟩ (update settings options)).2.files := by
  obtain ⟨before, hrun⟩ := runIn_update files settings options events
  obtain ⟨hchanges, hsucceeds, hfails⟩ := writes_modules connector ⟨files, before⟩ h hapart
  rw [hrun, hconnector]
  dsimp only
  generalize runIn ⟨files, before⟩ (writeModules settings connector) = result
    at hchanges hsucceeds hfails
  match result with
  | (.ok (), after) =>
    obtain ⟨htypes, hfunctions⟩ := hsucceeds rfl
    exact .inr ⟨rfl, isUpdated_of_changes hchanges htypes hfunctions⟩
  | (.error failure, after) =>
    obtain ⟨path, hpath, fault, rfl⟩ := hfails failure rfl
    exact .inl ⟨path, hpath, fault, rfl⟩

/-- In a file system without links, and with outputs at different places, an update that cannot load
its programs or make their modules changes no file. One that fails after a change names an output or
a directory above one. One that succeeds has written the modules of the programs that were there
before, and has changed nothing else but that it made directories above them. -/
theorem update_all_or_nothing (h : files.IsPlain)
    (hapart : files.location settings.typesPath ≠ files.location settings.functionsPath)
    (options : Wrapper.Options) (events : List Event) :
    (∀ failure, (Catalog.load files settings.programsPath (some settings.configurationPath) =
        .error failure ∨
      ∃ programs, Catalog.load files settings.programsPath (some settings.configurationPath) =
        .ok programs ∧
        Connector.ofPrograms settings.typescript options programs = .error failure) →
      (runIn ⟨files, events⟩ (update settings options)).1 = .error failure ∧
        (runIn ⟨files, events⟩ (update settings options)).2.files = files) ∧
    (∀ failure, (runIn ⟨files, events⟩ (update settings options)).1 = .error failure →
      (runIn ⟨files, events⟩ (update settings options)).2.files ≠ files →
      ∃ path ∈ outputPaths settings, ∃ fault, failure = .io path fault) ∧
    ∀ summary, (runIn ⟨files, events⟩ (update settings options)).1 = .ok summary →
      ∃ programs connector,
        Catalog.load files settings.programsPath (some settings.configurationPath) =
          .ok programs ∧
        Connector.ofPrograms settings.typescript options programs = .ok connector ∧
        summary = ⟨programs.length, settings.typesPath, settings.functionsPath⟩ ∧
        IsUpdated files settings connector
          (runIn ⟨files, events⟩ (update settings options)).2.files := by
  refine ⟨fun failure hfailed => ?_, ?_, ?_⟩
  · exact update_of_error (connectorOf_eq_error_iff.2 hfailed) events
  · intro failure hfailed hchanged
    cases hconnector : connectorOf files settings options with
    | error other => exact absurd (update_of_error hconnector events).2 hchanged
    | ok connector =>
      rcases update_of_ok h hapart hconnector events with ⟨path, hpath, fault, hio⟩ | ⟨hok, -⟩
      · exact ⟨path, hpath, fault, Except.error.inj (hfailed.symm.trans hio)⟩
      · exact nomatch hfailed.symm.trans hok
  · intro summary hsucceeded
    cases hconnector : connectorOf files settings options with
    | error other =>
      exact nomatch hsucceeded.symm.trans (update_of_error hconnector events).1
    | ok connector =>
      obtain ⟨programs, hload, hgenerate⟩ := connectorOf_eq_ok_iff.1 hconnector
      rcases update_of_ok h hapart hconnector events with ⟨path, -, fault, hio⟩ | ⟨hok, hupdated⟩
      · exact nomatch hsucceeded.symm.trans hio
      · rw [programCount_of_ofPrograms hgenerate] at hok
        exact ⟨programs, connector, hload, hgenerate,
          Except.ok.inj (hsucceeded.symm.trans hok), hupdated⟩

/-- One artifact in the directory of programs. -/
def countFiles : FileSystem :=
  ⟨.directory [("programs", .directory [("a.json", Catalog.artifactFile "Count")])], []⟩

/-- There is no link among these files. -/
theorem isPlain_countFiles : countFiles.IsPlain := by
  refine ⟨Node.isUnlinked_directory (List.forall_mem_singleton.2 ?_), by rfl⟩
  refine Node.isUnlinked_directory (List.forall_mem_singleton.2 ?_)
  exact Node.isUnlinked_file _ _

/-- The program is loaded and its modules are written. -/
theorem update_all_or_nothing_countFiles : countFiles.IsPlain ∧
    countFiles.location ({} : Settings).typesPath ≠
      countFiles.location ({} : Settings).functionsPath ∧
    ∃ connector after events, runIn ⟨countFiles, []⟩ (update {} {}) =
        (.ok ⟨1, "././types.ts", "././functions.ts"⟩, ⟨after, events⟩) ∧
      IsUpdated countFiles {} connector after := by
  have hapart : countFiles.location ({} : Settings).typesPath ≠
      countFiles.location ({} : Settings).functionsPath := by decide
  have hresult : (runIn ⟨countFiles, []⟩ (update {} {})).1 =
      .ok ⟨1, "././types.ts", "././functions.ts"⟩ := eq_ok_of_toOption (by decide +kernel)
  obtain ⟨-, -, hsucceeds⟩ := update_all_or_nothing isPlain_countFiles hapart {} []
  obtain ⟨_, connector, -, -, -, hupdated⟩ := hsucceeds _ hresult
  exact ⟨isPlain_countFiles, hapart, connector, _, _, Prod.ext hresult rfl, hupdated⟩

end Update

end ProgramConnector.Project
