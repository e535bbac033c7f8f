import Mathlib.Data.List.Induction
import ProgramConnector.Proofs.Catalog.Acceptance

/-!
# The order of checks

Loading a directory goes over its artifact files three times: all are read, then names are compared,
then every program is checked. Each pass stops at its first fault, and a fault of an earlier pass
hides all faults of later ones. So the outcome is that of exactly one of four cases, which are told
apart by the files alone.
-/

namespace ProgramConnector.Catalog

open Text

/-- An artifact file that gives no program, with the failure that stands for it. -/
inductive IsUnreadable (files : FileSystem) (path : String) : Failure → Prop where
  /-- The file cannot be read as text. -/
  | io {fault : OsError} (read : files.readText path = .error fault) :
    IsUnreadable files path (.io path fault)
  /-- The text of the file is no artifact. -/
  | document {source : String} {problem : Problem} (read : files.readText path = .ok source)
    (parsed : Artifact.ofText source = .error problem) :
    IsUnreadable files path (.unreadable path problem)

/-- The program that an artifact file gives. -/
structure IsReadFrom (files : FileSystem) (configuration : Option String) (path : String)
    (program : Program) : Prop where
  /-- The program comes from the file. -/
  file : program.file = path
  /-- The text of the file is its artifact. -/
  artifact : ∃ source, files.readText path = .ok source ∧
    Artifact.ofText source = .ok program.artifact
  /-- It has the configuration of its identifier. -/
  configured : program.configuration =
    (configurationsAt files configuration).get? program.artifact.identifier

/-- The fields that an artifact has to have, in the order of their check, and whether it has
them. -/
def requiredFields (artifact : Artifact) : List (String × Bool) :=
  [("title", !artifact.title.isEmpty), ("artifact_type", !artifact.artifactType.isEmpty),
    ("input_schema", artifact.body.inputSchema.isSome),
    ("output_schema", artifact.body.outputSchema.isSome), ("code", !artifact.body.code.isEmpty)]

/-- Everything that is wrong with a program on its own: the fields that it lacks, then its name. -/
def violations (program : Program) : List Failure :=
  ((requiredFields program.artifact).filter fun field => !field.2).map
      (fun field => .missingField field.1 program.file)
    ++ if isFunctionName program.names.function then []
      else [.invalidName program.title program.names.function program.file]

/-- A program that nothing is wrong with. -/
structure IsSound (program : Program) : Prop where
  /-- It has a title. -/
  title : program.title ≠ ""
  /-- It has a kind. -/
  artifactType : program.artifact.artifactType ≠ ""
  /-- It has a schema of its input. -/
  inputSchema : program.artifact.body.inputSchema.isSome = true
  /-- It has a schema of its output. -/
  outputSchema : program.artifact.body.outputSchema.isSome = true
  /-- It has code. -/
  code : program.code ≠ ""
  /-- The name of its function is not empty and does not start with a numeric character. -/
  name : ∃ first rest, program.names.function.toList = first :: rest ∧ isNumeric first = false

/-- What comes of loading artifact files. -/
inductive LoadOutcome (files : FileSystem) (configuration : Option String) (paths : List String) :
    Except Failure (List Program) → Prop where
  /-- A file gives no program, and all files before it do. -/
  | unreadable {front behind : List String} {path : String} {failure : Failure}
    (split : paths = front ++ path :: behind)
    (readable : ∀ other ∈ front, ∃ program, IsReadFrom files configuration other program)
    (failed : IsUnreadable files path failure) :
    LoadOutcome files configuration paths (.error failure)
  /-- All files give programs. One of them has the name of an earlier one, and those before it
  have different names. -/
  | repeated {programs front behind : List Program} {program : Program}
    (read : List.Forall₂ (IsReadFrom files configuration) paths programs)
    (split : programs = front ++ program :: behind)
    (distinct : (functionNames front).Nodup)
    (again : program.names.function ∈ functionNames front) :
    LoadOutcome files configuration paths (.error (.duplicateName program.title program.file))
  /-- All files give programs with different names. Something is wrong with one of them and nothing
  with those before it. -/
  | violated {programs front behind : List Program} {program : Program} {failure : Failure}
    (read : List.Forall₂ (IsReadFrom files configuration) paths programs)
    (distinct : (functionNames programs).Nodup)
    (split : programs = front ++ program :: behind)
    (sound : ∀ other ∈ front, IsSound other)
    (first : (violations program).head? = some failure) :
    LoadOutcome files configuration paths (.error failure)
  /-- All files give programs with different names, and nothing is wrong with any of them. -/
  | loaded {programs : List Program}
    (read : List.Forall₂ (IsReadFrom files configuration) paths programs)
    (distinct : (functionNames programs).Nodup)
    (sound : ∀ program ∈ programs, IsSound program) :
    LoadOutcome files configuration paths (.ok programs)

section Reading

variable {files : FileSystem} {configuration : Option String} {path : String}

/-- A program is read from a file when it is the program of that file. -/
theorem readProgram_eq_ok_iff {program : Program} :
    readProgram files (configurationsAt files configuration) path = .ok program ↔
      IsReadFrom files configuration path program := by
  unfold readProgram readArtifact
  constructor
  · intro h
    cases hread : files.readText path with
    | error fault => simp [hread, Except.map] at h
    | ok source =>
      cases hparsed : Artifact.ofText source with
      | error problem => simp [hread, hparsed, Except.map] at h
      | ok artifact =>
        simp only [hread, hparsed, Except.map, Except.ok.injEq] at h
        subst h
        exact ⟨rfl, ⟨source, hread, hparsed⟩, rfl⟩
  · rintro ⟨rfl, ⟨source, hread, hparsed⟩, hconfigured⟩
    simp only [hread, hparsed, Except.map, ← hconfigured]

/-- Reading a file fails as its contents say. -/
theorem readProgram_eq_error_iff {failure : Failure} :
    readProgram files (configurationsAt files configuration) path = .error failure ↔
      IsUnreadable files path failure := by
  unfold readProgram readArtifact
  constructor
  · intro h
    cases hread : files.readText path with
    | error fault =>
      simp only [hread, Except.map, Except.error.injEq] at h
      exact h ▸ .io hread
    | ok source =>
      cases hparsed : Artifact.ofText source with
      | error problem =>
        simp only [hread, hparsed, Except.map, Except.error.injEq] at h
        exact h ▸ .document hread hparsed
      | ok artifact => simp [hread, hparsed, Except.map] at h
  · rintro (hread | ⟨hread, hparsed⟩)
    · simp only [hread, Except.map]
    · simp only [hread, hparsed, Except.map]

end Reading

section Names

variable {front behind : List Program} {program : Program}

/-- The first program with the name of an earlier one is found. -/
theorem firstRepeated_eq_some {seen : List String} (hdistinct : (functionNames front).Nodup)
    (hnew : ∀ name ∈ functionNames front, name ∉ seen)
    (hagain : program.names.function ∈ functionNames front ∨ program.names.function ∈ seen) :
    firstRepeated seen (front ++ program :: behind) = some program := by
  induction front generalizing seen with
  | nil =>
    rw [List.nil_append, firstRepeated]
    have hseen : program.names.function ∈ seen := hagain.resolve_left List.not_mem_nil
    simp [hseen]
  | cons first front ih =>
    obtain ⟨hfirst, hrest⟩ := List.nodup_cons.1 hdistinct
    obtain ⟨hunseen, hothers⟩ := List.forall_mem_cons.1 hnew
    have hskip : seen.contains first.names.function = false := by simpa using hunseen
    rw [List.cons_append, firstRepeated, hskip]
    refine ih hrest (fun name hname hin => ?_) ?_
    · rcases List.mem_cons.1 hin with rfl | hin
      · exact hfirst hname
      · exact hothers name hname hin
    · rcases hagain with hfront | hseen
      · rcases List.mem_cons.1 hfront with heq | hfront
        · exact .inr (heq ▸ List.mem_cons_self)
        · exact .inl hfront
      · exact .inr (List.mem_cons_of_mem _ hseen)

/-- Programs have different names, or there is a first one with the name of an earlier one. -/
theorem nodup_or_first_repeated (programs : List Program) :
    (functionNames programs).Nodup ∨
    ∃ front program behind, programs = front ++ program :: behind ∧ (functionNames front).Nodup ∧
      program.names.function ∈ functionNames front := by
  induction programs using List.reverseRecOn with
  | nil => exact .inl List.nodup_nil
  | append_singleton front last ih =>
    rcases ih with hdistinct | ⟨before, program, behind, rfl, hdistinct, hagain⟩
    · by_cases hlast : last.names.function ∈ functionNames front
      · exact .inr ⟨front, last, [], rfl, hdistinct, hlast⟩
      · refine .inl ?_
        rw [functionNames, List.map_append, List.map_singleton]
        exact List.nodup_append.2 ⟨hdistinct, by simp, fun a ha b hb heq =>
          hlast (List.mem_singleton.1 hb ▸ heq ▸ ha)⟩
    · exact .inr ⟨before, program, behind ++ [last], by simp, hdistinct, hagain⟩

end Names

section Violations

variable {program : Program}

/-- A name can be that of a function when it is not empty and does not start with a numeric
character. -/
theorem isFunctionName_iff {name : String} : isFunctionName name = true ↔
    ∃ first rest, name.toList = first :: rest ∧ isNumeric first = false := by
  unfold isFunctionName
  cases name.toList with
  | nil => simp
  | cons first rest => simp

/-- Nothing is wrong with exactly the sound programs. -/
theorem violations_eq_nil_iff : violations program = [] ↔ IsSound program := by
  unfold violations requiredFields
  rw [List.append_eq_nil_iff, List.map_eq_nil_iff, List.filter_eq_nil_iff]
  simp only [List.forall_mem_cons, List.not_mem_nil, false_implies, implies_true, and_true,
    Bool.not_eq_true', Bool.not_eq_false]
  constructor
  · rintro ⟨⟨htitle, htype, hinput, houtput, hcode⟩, hname⟩
    refine ⟨by simpa [Program.title] using htitle, by simpa using htype, hinput, houtput,
      by simpa [Program.code] using hcode, isFunctionName_iff.1 ?_⟩
    by_contra hnot
    simp [hnot] at hname
  · rintro ⟨htitle, htype, hinput, houtput, hcode, hname⟩
    refine ⟨⟨by simpa [Program.title] using htitle, by simpa using htype, hinput, houtput,
      by simpa [Program.code] using hcode⟩, ?_⟩
    rw [if_pos (isFunctionName_iff.2 hname)]

/-- The field that is reported as missing is the first one that is missing. -/
theorem missingField?_eq (artifact : Artifact) : missingField? artifact =
    ((requiredFields artifact).filter fun field => !field.2).head?.map Prod.fst := by
  unfold missingField? requiredFields
  split_ifs <;> simp_all

/-- The check of a program fails with the first thing that is wrong with it. -/
theorem checkProgram_eq : checkProgram program =
    match (violations program).head? with
    | some failure => .error failure
    | none => .ok () := by
  unfold checkProgram violations
  rw [missingField?_eq]
  cases (requiredFields program.artifact).filter fun field => !field.2 with
  | cons field rest => rfl
  | nil => cases isFunctionName program.names.function <;> rfl

/-- The check of a program passes when nothing is wrong with it. -/
theorem checkProgram_of_isSound (h : IsSound program) : checkProgram program = .ok () := by
  rw [checkProgram_eq, violations_eq_nil_iff.2 h]
  rfl

/-- A program whose check passes is sound. -/
theorem isSound_of_checkProgram {u : Unit} (h : checkProgram program = .ok u) :
    IsSound program := by
  rw [checkProgram_eq] at h
  rw [← violations_eq_nil_iff, ← List.head?_eq_none_iff]
  cases hfirst : (violations program).head? with
  | none => rfl
  | some failure =>
    rw [hfirst] at h
    exact nomatch h

/-- A failed check names the first thing that is wrong. -/
theorem violations_of_checkProgram {failure : Failure} (h : checkProgram program = .error failure) :
    (violations program).head? = some failure := by
  rw [checkProgram_eq] at h
  cases hfirst : (violations program).head? with
  | none =>
    rw [hfirst] at h
    exact nomatch h
  | some other =>
    rw [hfirst] at h
    rw [Except.error.inj h]

end Violations

section Load

variable {files : FileSystem} {directory : String} {configuration : Option String}
  {found : List String}

/-- The files that are loaded are those that were found, without the configuration file. -/
abbrev loadedFiles (configuration : Option String) (found : List String) : List String :=
  found.filter fun path => !isConfigurationPath configuration path

/-- Loading a directory that can be walked is reading, comparing names, and checking. -/
theorem load_eq (hdirectory : files.isDirectory directory = true)
    (hfound : discover files directory = .ok found) :
    load files directory configuration = (do
      let programs ← (loadedFiles configuration found).mapM
        (readProgram files (configurationsAt files configuration))
      checkNames programs
      programs.forM checkProgram
      return programs) := by
  unfold load artifactFiles
  rw [hdirectory, hfound]
  rfl

/-- Each of the four cases fixes what is loaded. -/
theorem load_of_outcome {outcome : Except Failure (List Program)}
    (hdirectory : files.isDirectory directory = true)
    (hfound : discover files directory = .ok found)
    (h : LoadOutcome files configuration (loadedFiles configuration found) outcome) :
    load files directory configuration = outcome := by
  rw [load_eq hdirectory hfound]
  have hmapM {programs : List Program} (hread : List.Forall₂ (IsReadFrom files configuration)
      (loadedFiles configuration found) programs) : (loadedFiles configuration found).mapM
        (readProgram files (configurationsAt files configuration)) = .ok programs :=
    mapM_eq_ok_iff.2 (hread.imp fun _ _ => readProgram_eq_ok_iff.2)
  cases h with
  | @unreadable front behind path failure split readable failed =>
    have hfront : ∀ other ∈ front, ∃ program,
        readProgram files (configurationsAt files configuration) other = .ok program :=
      fun other hother => (readable other hother).imp fun _ => readProgram_eq_ok_iff.2
    rw [split, mapM_eq_error hfront (readProgram_eq_error_iff.2 failed)]
    rfl
  | @repeated programs front behind program read split distinct again =>
    have hfirst : firstRepeated [] (front ++ program :: behind) = some program :=
      firstRepeated_eq_some distinct (fun _ _ => List.not_mem_nil) (.inl again)
    rw [hmapM read, split]
    change (checkNames _ >>= _) = _
    rw [checkNames, hfirst]
    rfl
  | violated read distinct split sound first =>
    rw [hmapM read]
    change (checkNames _ >>= _) = _
    rw [checkNames_eq_ok_iff.2 distinct]
    change (List.forM _ checkProgram >>= _) = _
    rw [split, forM_eq_error (fun other hother => checkProgram_of_isSound (sound other hother))
      (by rw [checkProgram_eq, first])]
    rfl
  | loaded read distinct sound =>
    rw [hmapM read]
    change (checkNames _ >>= _) = _
    rw [checkNames_eq_ok_iff.2 distinct]
    change (List.forM _ checkProgram >>= _) = _
    rw [forM_checkProgram_eq_ok_iff.2 fun program hp => checkProgram_of_isSound (sound program hp)]
    rfl

/-- One of the four cases is there, whatever the files hold. -/
theorem exists_outcome (files : FileSystem) (configuration : Option String) (paths : List String) :
    ∃ outcome, LoadOutcome files configuration paths outcome := by
  rcases all_ok_or_first_error (readProgram files (configurationsAt files configuration)) paths with
    hread | ⟨front, path, behind, failure, hsplit, hfront, hfailed⟩
  · obtain ⟨programs, hprograms⟩ : ∃ programs,
        List.Forall₂ (IsReadFrom files configuration) paths programs := by
      obtain ⟨programs, hprograms⟩ := exists_mapM_eq_ok hread
      exact ⟨programs, (mapM_eq_ok_iff.1 hprograms).imp fun _ _ => readProgram_eq_ok_iff.1⟩
    rcases nodup_or_first_repeated programs with
      hdistinct | ⟨front, program, behind, hsplit, hfront, hagain⟩
    · rcases all_ok_or_first_error checkProgram programs with
        hsound | ⟨front, program, behind, failure, hsplit, hfront, hfailed⟩
      · exact ⟨_, .loaded hprograms hdistinct fun program hp =>
          isSound_of_checkProgram (hsound program hp).choose_spec⟩
      · exact ⟨_, .violated hprograms hdistinct hsplit (fun other hother =>
          isSound_of_checkProgram (hfront other hother).choose_spec)
          (violations_of_checkProgram hfailed)⟩
    · exact ⟨_, .repeated hprograms hsplit hfront hagain⟩
  · exact ⟨_, .unreadable hsplit (fun other hother => (hfront other hother).imp fun _ =>
      readProgram_eq_ok_iff.1) (readProgram_eq_error_iff.1 hfailed)⟩

/-- Loading a directory that exists and can be walked has the outcome of the one case that its
artifact files are in: the first file that cannot be used, else the first repeated name, else the
first thing that is wrong with the first program that is not sound, else all programs in order. -/
theorem load_eq_iff_outcome {outcome : Except Failure (List Program)}
    (hdirectory : files.isDirectory directory = true)
    (hfound : discover files directory = .ok found) :
    load files directory configuration = outcome ↔
      LoadOutcome files configuration (loadedFiles configuration found) outcome := by
  constructor
  · rintro rfl
    obtain ⟨outcome, houtcome⟩ :=
      exists_outcome files configuration (loadedFiles configuration found)
    rw [load_of_outcome hdirectory hfound houtcome]
    exact houtcome
  · exact load_of_outcome hdirectory hfound

/-- An artifact that has nothing but a title, and that title gives no name. -/
def namelessArtifact : ByteArray := "[\"\", \"!\"]".toUTF8

/-- The first of two artifacts lacks its kind. When the second is no document, this is reported
before, and so is the repeated name when both are the same. -/
theorem load_eq_iff_outcome_pairFiles :
    LoadOutcome (pairFiles namelessArtifact "[".toUTF8) none ["programs/a.json", "programs/b.json"]
        (.error (.unreadable "programs/b.json" .truncated)) ∧
      LoadOutcome (pairFiles namelessArtifact namelessArtifact) none
        ["programs/a.json", "programs/b.json"] (.error (.duplicateName "!" "programs/b.json")) := by
  have hdirectory (second : ByteArray) :
      (pairFiles namelessArtifact second).isDirectory "programs" = true := by rfl
  have hfound (second : ByteArray) := discover_pairFiles namelessArtifact second
  have hdocument : failure? (load (pairFiles namelessArtifact "[".toUTF8) "programs" none) =
      some (.unreadable "programs/b.json" .truncated) := by
    rw [load_eq (hdirectory _) (hfound _)]
    decide +kernel
  have hname : failure? (load (pairFiles namelessArtifact namelessArtifact) "programs" none) =
      some (.duplicateName "!" "programs/b.json") := by
    rw [load_eq (hdirectory _) (hfound _)]
    decide +kernel
  exact ⟨(load_eq_iff_outcome (hdirectory _) (hfound _)).1 (eq_error_of_failure? hdocument),
    (load_eq_iff_outcome (hdirectory _) (hfound _)).1 (eq_error_of_failure? hname)⟩

end Load

end ProgramConnector.Catalog
