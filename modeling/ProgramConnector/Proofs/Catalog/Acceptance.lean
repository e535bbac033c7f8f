import Mathlib.Data.List.Basic
import ProgramConnector.Catalog.Load
import ProgramConnector.Proofs.Results

/-!
# Which programs are accepted

The programs of a directory are loaded exactly when all of them can be read, their function names
differ, none lacks a field, and every name can be the name of a function.
-/

namespace ProgramConnector.Catalog

/-- The function names of programs. -/
def functionNames (programs : List Program) : List String :=
  programs.map fun program => program.names.function

/-- Programs that pass all checks. -/
structure IsAccepted (programs : List Program) : Prop where
  /-- Their function names differ. -/
  distinct : (functionNames programs).Nodup
  /-- No field is missing. -/
  complete : ∀ program ∈ programs, missingField? program.artifact = none
  /-- Every name can be the name of a function. -/
  named : ∀ program ∈ programs, isFunctionName program.names.function = true

variable {programs : List Program}

/-- No function name is repeated when all differ from one another and from those seen before. -/
theorem firstRepeated_eq_none_iff {seen : List String} : firstRepeated seen programs = none ↔
    (functionNames programs).Nodup ∧ ∀ name ∈ functionNames programs, name ∉ seen := by
  induction programs generalizing seen with
  | nil => simp [firstRepeated, functionNames]
  | cons program rest ih =>
    rw [firstRepeated]
    simp only [functionNames] at ih ⊢
    rw [List.map_cons, List.nodup_cons, List.forall_mem_cons]
    by_cases hseen : program.names.function ∈ seen
    · simp [hseen]
    · rw [if_neg (by simpa using hseen), ih]
      constructor
      · rintro ⟨hn, hrest⟩
        refine ⟨⟨fun hm => hrest _ hm List.mem_cons_self, hn⟩, hseen, fun name hm hs => ?_⟩
        exact hrest name hm (List.mem_cons_of_mem _ hs)
      · rintro ⟨⟨hfirst, hn⟩, -, hrest⟩
        refine ⟨hn, fun name hm hs => ?_⟩
        rcases List.mem_cons.1 hs with rfl | hs
        · exact hfirst hm
        · exact hrest name hm hs

/-- The check of names passes when all differ. -/
theorem checkNames_eq_ok_iff : checkNames programs = .ok () ↔ (functionNames programs).Nodup := by
  have hiff := @firstRepeated_eq_none_iff programs []
  simp only [List.not_mem_nil, not_false_eq_true, implies_true, and_true] at hiff
  rw [← hiff, checkNames]
  cases firstRepeated [] programs <;> simp

/-- The check of a program passes when no field is missing and its name can be that of a
function. -/
theorem checkProgram_eq_ok_iff {program : Program} : checkProgram program = .ok () ↔
    missingField? program.artifact = none ∧ isFunctionName program.names.function = true := by
  unfold checkProgram
  cases missingField? program.artifact with
  | some field => simp
  | none => cases isFunctionName program.names.function <;> simp

/-- The check of all programs passes when each check does. -/
theorem forM_checkProgram_eq_ok_iff : programs.forM checkProgram = .ok () ↔
    ∀ program ∈ programs, checkProgram program = .ok () := by
  induction programs with
  | nil => simp [pure, Except.pure]
  | cons program rest ih =>
    rw [List.forall_mem_cons, ← ih]
    change (checkProgram program >>= fun _ => rest.forM checkProgram) = .ok () ↔ _
    cases checkProgram program with
    | error failure => simp [bind, Except.bind]
    | ok _ => simp [bind, Except.bind]

/-- Both checks pass for the programs that are accepted. -/
theorem isAccepted_iff : IsAccepted programs ↔
    checkNames programs = .ok () ∧ programs.forM checkProgram = .ok () := by
  rw [checkNames_eq_ok_iff, forM_checkProgram_eq_ok_iff]
  constructor
  · intro h
    exact ⟨h.distinct, fun program hp =>
      checkProgram_eq_ok_iff.2 ⟨h.complete program hp, h.named program hp⟩⟩
  · rintro ⟨hdistinct, hchecked⟩
    exact ⟨hdistinct, fun program hp => (checkProgram_eq_ok_iff.1 (hchecked program hp)).1,
      fun program hp => (checkProgram_eq_ok_iff.1 (hchecked program hp)).2⟩

/-- Programs are loaded when they are read from the artifact files of a directory and accepted. -/
theorem load_eq_ok_iff {files : FileSystem} {directory : String} {configuration : Option String} :
    load files directory configuration = .ok programs ↔
      files.isDirectory directory = true ∧
      (∃ paths, artifactFiles files directory configuration = .ok paths ∧
        paths.mapM (readProgram files (configurationsAt files configuration)) = .ok programs) ∧
      IsAccepted programs := by
  rw [isAccepted_iff]
  unfold load
  cases files.isDirectory directory with
  | false => simp [throw, throwThe, MonadExceptOf.throw, bind, Except.bind]
  | true =>
    simp only [Bool.not_true, Bool.false_eq_true, if_false, true_and]
    constructor
    · intro h
      obtain ⟨paths, hpaths, h⟩ := bind_eq_ok h
      obtain ⟨read, hread, h⟩ := bind_eq_ok h
      obtain ⟨_, hnames, h⟩ := bind_eq_ok h
      obtain ⟨_, hprograms, h⟩ := bind_eq_ok h
      cases h
      exact ⟨⟨paths, hpaths, hread⟩, hnames, hprograms⟩
    · rintro ⟨⟨paths, hpaths, hread⟩, hnames, hprograms⟩
      simp only [hpaths, hread, hnames, hprograms, bind, Except.bind, pure, Except.pure]

/-! ## Small catalogs -/

/-- Two artifact files with this content. -/
def pairFiles (first second : ByteArray) : FileSystem :=
  ⟨.directory [("programs", .directory [("a.json", .file first FileSystem.newFileMode),
    ("b.json", .file second FileSystem.newFileMode)])], []⟩

/-- Two things in order stay in order. -/
theorem sortedByName_pair {α : Type} {first second : String × α} (h : first.1 ≤ second.1) :
    sortedByName [first, second] = [first, second] := by
  simp [sortedByName, List.mergeSort, List.MergeSort.Internal.splitInTwo, h]

/-- Both artifact files are found. -/
theorem discover_pairFiles (first second : ByteArray) :
    discover (pairFiles first second) "programs" = .ok ["programs/a.json", "programs/b.json"] := by
  have hnode : (pairFiles first second).node false "programs" = .ok (.directory
      [("a.json", .file first FileSystem.newFileMode),
        ("b.json", .file second FileSystem.newFileMode)]) := by
    rfl
  have hwalk : (pairFiles first second).walk "programs" = .ok [
      ("programs", .directory [("a.json", .file first FileSystem.newFileMode),
        ("b.json", .file second FileSystem.newFileMode)]),
      ("programs/a.json", .file first FileSystem.newFileMode),
      ("programs/b.json", .file second FileSystem.newFileMode)] := by
    have horder : "a.json" ≤ "b.json" := by decide
    have hfirst : Path.join "programs" "a.json" = "programs/a.json" := by decide
    have hsecond : Path.join "programs" "b.json" = "programs/b.json" := by decide
    unfold FileSystem.walk
    rw [hnode]
    simp only [bind, Except.bind, Node.walk, Node.walkEntries]
    rw [sortedByName_pair horder, hfirst, hsecond]
    rfl
  rw [discover, hwalk]
  rfl

/-- An artifact with this title, written as the list of its fields. -/
def artifactFile (title : String) : Node :=
  .file ("[\"\", \"" ++ title ++ "\", \"automation\", [\"return 1;\", true, true]]").toUTF8
    FileSystem.newFileMode

/-- Two artifacts whose titles are single words. -/
def wordFiles : FileSystem :=
  ⟨.directory [("programs", .directory [("a.json", artifactFile "Delete"),
    ("b.json", artifactFile "SDK")])], []⟩

/-- Both artifacts are found. -/
theorem artifactFiles_wordFiles : artifactFiles wordFiles "programs" none =
    .ok ["programs/a.json", "programs/b.json"] := by
  have hfound : discover wordFiles "programs" = .ok ["programs/a.json", "programs/b.json"] :=
    discover_pairFiles _ _
  rw [artifactFiles, hfound]
  rfl

/-- The titles of programs, and whether the checks of their names and of each of them pass. -/
def checkResults (programs : List Program) : List String × Bool × Bool :=
  (programs.map Program.title, (checkNames programs).toBool, (programs.forM checkProgram).toBool)

/-- Both artifacts are loaded. -/
theorem exists_load_wordFiles : ∃ first second, load wordFiles "programs" none =
    .ok [first, second] ∧ (first.title = "Delete" ∧ second.title = "SDK") ∧
    first.names.function = "delete" ∧ second.names.function = "sdk" := by
  have hread : (["programs/a.json", "programs/b.json"].mapM
      (readProgram wordFiles (configurationsAt wordFiles none))).toOption.map checkResults =
      some (["Delete", "SDK"], true, true) := by decide +kernel
  obtain ⟨programs, hprograms, hresults⟩ := eq_ok_of_toOption_map hread
  obtain ⟨htitles, hchecks⟩ := Prod.mk.inj hresults
  obtain ⟨hnames, hchecked⟩ := Prod.mk.inj hchecks
  obtain ⟨first, second, rfl⟩ : ∃ first second, programs = [first, second] := by
    have hlength := congrArg List.length htitles
    rw [List.length_map] at hlength
    exact List.length_eq_two.1 hlength
  obtain ⟨hfirst, hrest⟩ := List.cons.inj htitles
  obtain ⟨hsecond, -⟩ := List.cons.inj hrest
  have haccepted : IsAccepted [first, second] :=
    isAccepted_iff.2 ⟨eq_ok_of_toBool hnames, eq_ok_of_toBool hchecked⟩
  refine ⟨first, second, load_eq_ok_iff.2 ⟨by decide, ⟨_, artifactFiles_wordFiles, hprograms⟩,
    haccepted⟩, ⟨hfirst, hsecond⟩, ?_, ?_⟩
  · rw [Program.names, hfirst]
    decide
  · rw [Program.names, hsecond]
    decide

end ProgramConnector.Catalog
