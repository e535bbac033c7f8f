import ProgramConnector.Proofs.Catalog.FoundFiles
import ProgramConnector.Proofs.Catalog.LoadOrder

/-!
# Loading without configurations

A program without its configuration is bare. Loading programs and making them bare is the same as
loading bare programs, failures included: no check looks at a configuration. So what is loaded is
the same but for configurations whenever the artifact files hold the same texts.
-/

namespace ProgramConnector

/-- A program without its configuration. -/
def Program.bare (program : Program) : Program := { program with configuration := none }

namespace Catalog

open FileSystem

/-- Reads the programs of paths and checks them, names first. -/
def loadFrom (read : String → Except Failure Program) (paths : List String) :
    Except Failure (List Program) := do
  let programs ← paths.mapM read
  checkNames programs
  programs.forM checkProgram
  return programs

/-- The program of a file without a configuration. -/
def readBare (files : FileSystem) (path : String) : Except Failure Program :=
  (readArtifact files path).map fun artifact => ⟨path, artifact, none⟩

section Bare

variable {files other : FileSystem} {programs : List Program} {paths : List String}
  {read read' : String → Except Failure Program}

/-- Names are compared without regard to configurations. -/
theorem firstRepeated_map_bare (seen : List String) (programs : List Program) :
    firstRepeated seen (programs.map Program.bare) =
      (firstRepeated seen programs).map Program.bare := by
  induction programs generalizing seen with
  | nil => rfl
  | cons program rest ih =>
    have hnames : program.bare.names = program.names := rfl
    rw [List.map_cons, firstRepeated, firstRepeated, hnames]
    split_ifs
    · rfl
    · exact ih _

/-- The check of names does not look at configurations. -/
theorem checkNames_map_bare (programs : List Program) :
    checkNames (programs.map Program.bare) = checkNames programs := by
  unfold checkNames
  rw [firstRepeated_map_bare]
  cases firstRepeated [] programs <;> rfl

/-- The checks of programs do not look at configurations. -/
theorem forM_checkProgram_map_bare (programs : List Program) :
    (programs.map Program.bare).forM checkProgram = programs.forM checkProgram := by
  induction programs with
  | nil => rfl
  | cons program rest ih =>
    have hfirst : checkProgram program.bare = checkProgram program := rfl
    change (checkProgram program.bare >>= fun _ => (rest.map Program.bare).forM checkProgram) =
      (checkProgram program >>= fun _ => rest.forM checkProgram)
    rw [hfirst, ih]

/-- Programs that are read and then made bare are read bare. -/
theorem mapM_map_bare (read : String → Except Failure Program) (paths : List String) :
    paths.mapM (fun path => (read path).map Program.bare) =
      (paths.mapM read).map (List.map Program.bare) := by
  induction paths with
  | nil => rfl
  | cons path rest ih =>
    rw [List.mapM_cons, List.mapM_cons, ih]
    cases read path with
    | error failure => rfl
    | ok program => cases rest.mapM read <;> rfl

/-- Loading programs and making them bare is the same as loading bare programs. -/
theorem map_bare_loadFrom (read : String → Except Failure Program) (paths : List String) :
    (loadFrom read paths).map (List.map Program.bare) =
      loadFrom (fun path => (read path).map Program.bare) paths := by
  unfold loadFrom
  rw [mapM_map_bare]
  cases paths.mapM read with
  | error failure => rfl
  | ok programs =>
    change Except.map _ (checkNames programs >>= fun _ =>
      programs.forM checkProgram >>= fun _ => .ok programs) =
      (checkNames (programs.map Program.bare) >>= fun _ =>
        (programs.map Program.bare).forM checkProgram >>= fun _ => .ok (programs.map Program.bare))
    rw [checkNames_map_bare, forM_checkProgram_map_bare]
    cases checkNames programs with
    | error failure => rfl
    | ok _ => cases programs.forM checkProgram <;> rfl

/-- Loading depends on what is read from the paths alone. -/
theorem loadFrom_congr (h : ∀ path ∈ paths, read path = read' path) :
    loadFrom read paths = loadFrom read' paths := by
  have hread : paths.mapM read = paths.mapM read' := by
    induction paths with
    | nil => rfl
    | cons path rest ih =>
      obtain ⟨hpath, hrest⟩ := List.forall_mem_cons.1 h
      rw [List.mapM_cons, List.mapM_cons, hpath, ih hrest]
  unfold loadFrom
  rw [hread]

/-- A program that is read and then made bare is read bare. -/
theorem map_bare_readProgram (files : FileSystem) (configurations : ProgramConfigurations)
    (path : String) : (readProgram files configurations path).map Program.bare =
      readBare files path := by
  unfold readProgram readBare
  cases readArtifact files path <;> rfl

/-- The programs of a directory are loaded bare from the artifact files that were found, without the
configuration file. -/
theorem map_bare_load {directory : String} {configuration : Option String} {found : List String}
    (hdirectory : files.isDirectory directory = true)
    (hfound : discover files directory = .ok found) :
    (load files directory configuration).map (List.map Program.bare) =
      loadFrom (readBare files) (loadedFiles configuration found) := by
  have hload : load files directory configuration =
      loadFrom (readProgram files (configurationsAt files configuration))
        (loadedFiles configuration found) := load_eq hdirectory hfound
  rw [hload, map_bare_loadFrom]
  exact loadFrom_congr fun path _ => map_bare_readProgram files _ path

end Bare

end Catalog

end ProgramConnector
