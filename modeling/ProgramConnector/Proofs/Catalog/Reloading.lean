import ProgramConnector.Proofs.Catalog.Acceptance
import ProgramConnector.Proofs.Catalog.Rediscovery

/-!
# Loading programs again

Changes that write neither artifact files nor the configuration file leave the programs of a
directory as they are. A configuration file that was not found is not found later either, unless its
path goes up from a directory that has been made since.
-/

namespace ProgramConnector

namespace FileSystem

variable {files later : FileSystem} {made written : List String → Prop} {path text : String}

/-- A text is read from a file that holds it and lets its owner read it. -/
theorem readText_eq_ok_iff : files.readText path = .ok text ↔
    ∃ content mode, files.node true path = .ok (.file content mode) ∧ mayRead mode = true ∧
      String.fromUTF8? content = some text := by
  constructor
  · intro h
    obtain ⟨content, hcontent, htext⟩ := bind_eq_ok h
    obtain ⟨mode, hnode, hmode⟩ := read_eq_ok_iff.1 hcontent
    refine ⟨content, mode, hnode, hmode, ?_⟩
    split at htext
    · rename_i hfound
      cases htext
      exact hfound
    · exact nomatch htext
  · rintro ⟨content, mode, hnode, hmode, htext⟩
    unfold readText
    rw [read_eq_ok_iff.2 ⟨mode, hnode, hmode⟩]
    simp only [bind, Except.bind, htext]
    rfl

/-- A text that is read is read again while its file is not written. -/
theorem Changes.readText (h : Changes made written files later) (hplain : files.IsPlain)
    (hread : files.readText path = .ok text) (hw : ¬ written (files.location path)) :
    later.readText path = .ok text := by
  obtain ⟨content, mode, hnode, hmode, htext⟩ := readText_eq_ok_iff.1 hread
  obtain ⟨hresolve, hentry, -⟩ := hplain.location_of_file hnode
  have hlater := Node.entryAt?_eq_file_iff.1 (h.entryAt?_eq hentry hw)
  exact readText_eq_ok_iff.2 ⟨content, mode,
    node_eq_ok_iff.2 ⟨_, h.resolve_taken hplain hresolve true, hlater⟩, hmode, htext⟩

/-- A text that is read later on was read before, when its file has not been written and its path
does not go up from a directory that has been made. -/
theorem Changes.readText_back (h : Changes made written files later) (hplain : files.IsPlain)
    (hread : later.readText path = .ok text) (hw : ¬ written (files.location path))
    (hleaves : LeavesOld files.entryAt? later.entryAt? (startOf files.current path) (steps path)) :
    files.readText path = .ok text := by
  obtain ⟨content, mode, hnode, hmode, htext⟩ := readText_eq_ok_iff.1 hread
  obtain ⟨hresolve, hentry, -⟩ := (h.isPlain hplain).location_of_file hnode
  rw [h.location_eq] at hresolve hentry
  have hold : files.entryAt? (files.location path) = some (.file content mode) :=
    (hentry ▸ h.becomes (files.location path)).of_file hw
  have hnew (location : List String) (hdirectory : later.entryAt? location = some .directory) :
      files.entryAt? location = some .directory ∨ files.entryAt? location = none :=
    (hdirectory ▸ h.becomes location).of_directory
  obtain ⟨hfault, hleads⟩ := (h.isPlain hplain).resolve_eq_ok_iff.1 hresolve
  rw [h.current_eq] at hleads
  have hback := hleads.back (fun _ hup => entryAt?_dropLast hup)
    (fun _ name hnone => entryAt?_append_singleton hnone name) hnew hleaves
    (entryAt?_startOf hplain.current path) hold
  have hresolve' : files.resolve true path = .ok (.taken (files.location path)) :=
    hplain.resolve_eq_ok_iff.2 ⟨hfault, hback⟩
  exact readText_eq_ok_iff.2 ⟨content, mode,
    node_eq_ok_iff.2 ⟨_, hresolve', Node.entryAt?_eq_file_iff.1 hold⟩, hmode, htext⟩

end FileSystem

namespace Catalog

open FileSystem

variable {files later : FileSystem} {made written : List String → Prop}
  {path directory configuration : String}

/-- The configurations are those of the text of the configuration file, if it can be read. -/
theorem configurationsAt_eq (files : FileSystem) (path : String) :
    configurationsAt files (some path) =
      match (files.readText path).toOption with
      | some source => ((ProgramConfigurations.ofText source).toOption).getD {}
      | none => {} := by
  change (ConfigurationFile.ofPath files path).configurations = _
  unfold ConfigurationFile.ofPath
  cases files.readText path with
  | error fault => cases files.holds path <;> rfl
  | ok source =>
    dsimp only [Except.toOption]
    cases ProgramConfigurations.ofText source <;> rfl

/-- The configurations stay the same when the configuration file is not written and its path does
not go up from a directory that has been made. -/
theorem configurationsAt_of_changes (h : Changes made written files later) (hplain : files.IsPlain)
    (hw : ¬ written (files.location path))
    (hleaves : LeavesOld files.entryAt? later.entryAt? (startOf files.current path) (steps path)) :
    configurationsAt later (some path) = configurationsAt files (some path) := by
  have hsame : (later.readText path).toOption = (files.readText path).toOption := by
    refine Option.ext fun text => ?_
    have hiff (files : FileSystem) :
        (files.readText path).toOption = some text ↔ files.readText path = .ok text := by
      cases files.readText path <;> simp [Except.toOption]
    rw [hiff, hiff]
    exact ⟨fun hread => h.readText_back hplain hread hw hleaves,
      fun hread => h.readText hplain hread hw⟩
  rw [configurationsAt_eq, configurationsAt_eq, hsame]

/-- Artifact files have the extension of artifact files. -/
theorem extension?_of_mem_artifactFiles {configuration : Option String} {paths : List String}
    (h : artifactFiles files directory configuration = .ok paths) (hpath : path ∈ paths) :
    Path.extension? path = some artifactExtension := by
  unfold artifactFiles discover at h
  cases hwalk : files.walk directory with
  | error fault =>
    rw [hwalk] at h
    exact nomatch h
  | ok met =>
    rw [hwalk] at h
    cases h
    obtain ⟨⟨found, node⟩, hmet, rfl⟩ := List.mem_map.1 (List.mem_of_mem_filter hpath)
    have hartifact := (List.mem_filter.1 hmet).2
    unfold isArtifactFile at hartifact
    exact eq_of_beq (Bool.and_eq_true _ _ ▸ hartifact).2

/-- A program is read again when its artifact file is not at a place with a quiet name. -/
theorem readProgram_of_changes {configurations : ProgramConfigurations} {program : Program}
    (h : Changes made written files later) (hplain : files.IsPlain)
    (hquiet : ∀ location, written location → ∀ name ∈ location.getLast?, IsQuietName name)
    (hextension : Path.extension? path = some artifactExtension)
    (hread : readProgram files configurations path = .ok program) :
    readProgram later configurations path = .ok program := by
  cases htext : files.readText path with
  | error fault =>
    unfold readProgram readArtifact at hread
    rw [htext] at hread
    exact nomatch hread
  | ok source =>
    have hw : ¬ written (files.location path) := by
      intro hwritten
      obtain ⟨content, mode, hnode, -⟩ := readText_eq_ok_iff.1 htext
      obtain ⟨-, -, above, name, hlocation, hname, -⟩ := hplain.location_of_file hnode
      have hlast : name ∈ (files.location path).getLast? := by simp [hlocation]
      refine (hquiet _ hwritten name hlast).extension ?_
      rwa [Path.extension?, hname] at hextension
    have hlater := h.readText hplain htext hw
    unfold readProgram readArtifact at hread ⊢
    rw [htext] at hread
    rw [hlater]
    exact hread

/-- Programs that are loaded are loaded again, after changes that write to places with quiet names
other than that of the configuration file. -/
theorem load_of_changes {programs : List Program} (h : Changes made written files later)
    (hplain : files.IsPlain)
    (hquiet : ∀ location, written location → ∀ name ∈ location.getLast?, IsQuietName name)
    (hw : ¬ written (files.location configuration))
    (hleaves : LeavesOld files.entryAt? later.entryAt? (startOf files.current configuration)
      (steps configuration))
    (hload : load files directory (some configuration) = .ok programs) :
    load later directory (some configuration) = .ok programs := by
  obtain ⟨hdirectory, ⟨paths, hpaths, hread⟩, haccepted⟩ := load_eq_ok_iff.1 hload
  refine load_eq_ok_iff.2 ⟨h.isDirectory hplain hdirectory, ⟨paths, ?_, ?_⟩, haccepted⟩
  · unfold artifactFiles at hpaths ⊢
    rw [discover_of_changes h hplain hquiet hdirectory]
    exact hpaths
  · rw [configurationsAt_of_changes h hplain hw hleaves]
    have hextensions : ∀ path ∈ paths, Path.extension? path = some artifactExtension :=
      fun path hpath => extension?_of_mem_artifactFiles hpaths hpath
    have hall := (List.forall₂_and_left paths programs).2 ⟨hextensions, mapM_eq_ok_iff.1 hread⟩
    exact mapM_eq_ok_iff.2 (hall.imp fun path program hboth =>
      readProgram_of_changes h hplain hquiet hboth.1 hboth.2)

end Catalog

end ProgramConnector
