import ProgramConnector.Project.Action
import ProgramConnector.Proofs.Files.Writing

/-!
# Writing the outputs of an action

What an action that only writes does to the files of its world: which changes it makes, what holds
when it succeeds, and which paths it can name when it fails. Writing one output after another is put
together from the steps of one output, and what the first one has written is still there after the
second. Where links stand on the way, an output that is written is put where its path leads.
-/

namespace ProgramConnector.Action

open FileSystem

/-- An action that, run in a world, only makes changes of files, has `done` when it succeeds, and
names one of the paths when it fails. -/
structure Writes (made written : List String → Prop) (paths : List String) (world : World)
    (action : Action Unit) (done : FileSystem → Prop) : Prop where
  /-- The files are changed. -/
  changes : Changes made written world.files (runIn world action).2.files
  /-- What holds when the action succeeds. -/
  succeeds : (runIn world action).1 = .ok () → done (runIn world action).2.files
  /-- What is named when the action fails. -/
  fails : ∀ failure, (runIn world action).1 = .error failure →
    ∃ path ∈ paths, ∃ fault, failure = .io path fault

section Runs

variable (world : World) (path : String)

/-- Two actions that succeed one after the other succeed each, and the second one runs in the world
that the first one leaves. -/
theorem runIn_bind_eq_ok {α β : Type} {world after : World} {first : Action α}
    {next : α → Action β} {result : β} (h : runIn world (first >>= next) = (.ok result, after)) :
    ∃ value middle, runIn world first = (.ok value, middle) ∧
      runIn middle (next value) = (.ok result, after) := by
  rw [runIn_bind] at h
  match hfirst : runIn world first with
  | (.ok value, middle) =>
    rw [hfirst] at h
    exact ⟨value, middle, rfl, h⟩
  | (.error failure, middle) =>
    rw [hfirst] at h
    exact nomatch h

/-- Looking at the files leaves the world alone. -/
theorem runIn_files (world : World) : runIn world Action.files = (.ok world.files, world) := rfl

/-- Actions on the elements of a list that leave the files alone do so one after the other. -/
theorem runIn_mapM_of_stays {α β : Type} {files : FileSystem} {action : α → Action β}
    {result : α → β} {xs : List α} (h : ∀ x ∈ xs, ∀ events, ∃ reported,
      runIn ⟨files, events⟩ (action x) = (.ok (result x), ⟨files, reported⟩))
    (events : List Event) : ∃ reported,
      runIn ⟨files, events⟩ (xs.mapM action) = (.ok (xs.map result), ⟨files, reported⟩) := by
  induction xs generalizing events with
  | nil => exact ⟨events, rfl⟩
  | cons x rest ih =>
    obtain ⟨hx, hrest⟩ := List.forall_mem_cons.1 h
    obtain ⟨middle, hfirst⟩ := hx events
    obtain ⟨reported, hthen⟩ := ih hrest middle
    refine ⟨reported, ?_⟩
    rw [List.mapM_cons, runIn_bind, hfirst]
    dsimp only
    rw [runIn_bind, hthen]
    rfl

/-- What a change of files does to the world. -/
theorem runIn_change (step : FileSystem → Except OsError FileSystem) :
    runIn world (change path step) =
      match step world.files with
      | .ok later => (.ok (), { world with files := later })
      | .error fault => (.error (.io path fault), world) := by
  change runIn world (match step world.files with
    | .ok changed => setFiles changed
    | .error fault => throw (.io path fault)) = _
  cases step world.files <;> rfl

/-- A file without a parent needs no preparation. -/
theorem runIn_prepareParent_of_none (h : parentPath? path = none) :
    runIn world (prepareParent path) = (.ok (), world) := by
  unfold parentPath? at h
  unfold prepareParent
  rw [h]
  rfl

/-- Preparing a parent makes its directories, and fails as that does. -/
theorem runIn_prepareParent_of_some {parent : String} (h : parentPath? path = some parent) :
    runIn world (prepareParent path) =
      ((world.files.makeDirectories parent).2.mapError (.io parent),
        { world with files := (world.files.makeDirectories parent).1 }) := by
  have hset (later : FileSystem) :
      runIn world (setFiles later) = (.ok (), { world with files := later }) := rfl
  unfold parentPath? at h
  unfold prepareParent
  rw [h]
  dsimp only
  rw [runIn_bind, runIn_files]
  dsimp only
  rw [runIn_bind, hset]
  dsimp only
  cases (world.files.makeDirectories parent).2 <;> rfl

/-- A parent that is there needs no preparation. -/
theorem runIn_prepareParent_of_hasParent (h : world.files.HasParent path) :
    runIn world (prepareParent path) = (.ok (), world) := by
  cases hparent : parentPath? path with
  | none => exact runIn_prepareParent_of_none world path hparent
  | some parent =>
    rw [runIn_prepareParent_of_some world path hparent,
      makeDirectories_of_isDirectory hparent (h parent hparent)]
    rfl

end Runs

section Steps

variable {made written made' written' : List String → Prop} {paths paths' : List String}
  {world : World} {first second action : Action Unit} {middle done done' : FileSystem → Prop}
  {path text : String}

/-- One action after the other. -/
theorem Writes.bind (hfirst : Writes made written paths world first middle)
    (hsecond : ∀ after : World, Changes made written world.files after.files →
      middle after.files → Writes made written paths after second done) :
    Writes made written paths world (first >>= fun _ => second) done := by
  obtain ⟨hchanges, hsucceeds, hfails⟩ := hfirst
  have hrun := runIn_bind world first fun _ => second
  generalize runIn world first = result at hrun hchanges hsucceeds hfails
  match result with
  | (.ok (), after) =>
    have hthen := hsecond after hchanges (hsucceeds rfl)
    constructor
    · rw [hrun]
      exact hchanges.trans hthen.changes
    · rw [hrun]
      exact hthen.succeeds
    · rw [hrun]
      exact hthen.fails
  | (.error failure, after) =>
    constructor
    · rw [hrun]
      exact hchanges
    · rw [hrun]
      exact fun hok => nomatch hok
    · rw [hrun]
      exact hfails

/-- An action makes fewer changes, names fewer paths and achieves more than what is known of it. -/
theorem Writes.imp (h : Writes made written paths world action done)
    (hmade : ∀ location, made location → made' location)
    (hwritten : ∀ location, written location → written' location)
    (hpaths : ∀ path ∈ paths, path ∈ paths')
    (hdone : ∀ later, Changes made written world.files later → done later → done' later) :
    Writes made' written' paths' world action done' := by
  constructor
  · exact h.changes.imp hmade hwritten
  · exact fun hok => hdone _ h.changes (h.succeeds hok)
  · intro failure hfailed
    obtain ⟨path, hpath, hfault⟩ := h.fails failure hfailed
    exact ⟨path, hpaths path hpath, hfault⟩

/-- An action that is known to succeed. -/
theorem writes_of_ok {after : World} (hrun : runIn world action = (.ok (), after))
    (hchanges : Changes made written world.files after.files) (hdone : done after.files) :
    Writes made written paths world action done := by
  constructor
  · rw [hrun]
    exact hchanges
  · rw [hrun]
    exact fun _ => hdone
  · rw [hrun]
    exact fun _ hfailure => nomatch hfailure

/-- An action that is known to fail. -/
theorem writes_of_error {after : World} {fault : OsError}
    (hrun : runIn world action = (.error (.io path fault), after))
    (hchanges : Changes made written world.files after.files) (hpath : path ∈ paths) :
    Writes made written paths world action done := by
  constructor
  · rw [hrun]
    exact hchanges
  · rw [hrun]
    exact fun hok => nomatch hok
  · rw [hrun]
    intro failure hfailure
    cases hfailure
    exact ⟨path, hpath, fault, rfl⟩

/-- A step that is a change of files, if it has a result. -/
theorem writes_change {step : FileSystem → Except OsError FileSystem} (hpath : path ∈ paths)
    (hstep : ∀ later, step world.files = .ok later →
      Changes made written world.files later ∧ done later) :
    Writes made written paths world (change path step) done := by
  have hrun := runIn_change world path step
  cases hresult : step world.files with
  | error fault =>
    rw [hresult] at hrun
    exact writes_of_error hrun .refl hpath
  | ok later =>
    rw [hresult] at hrun
    obtain ⟨hchanges, hdone⟩ := hstep later hresult
    exact writes_of_ok hrun hchanges hdone

/-- Preparing the parent of a file makes directories above it, and the parent is there
afterwards. -/
theorem writes_prepareParent (h : world.files.IsPlain)
    (hmade : ∀ above ∈ pathsAbove path, made (world.files.location above))
    (hpaths : ∀ above ∈ pathsAbove path, above ∈ paths) :
    Writes made written paths world (prepareParent path) fun files => files.HasParent path := by
  cases hparent : parentPath? path with
  | none =>
    exact writes_of_ok (runIn_prepareParent_of_none world path hparent) .refl
      fun parent hsome => nomatch hparent.symm.trans hsome
  | some parent =>
    obtain ⟨hchanges, hdirectory⟩ : Changes made written world.files
        (world.files.makeDirectories parent).1 ∧ _ := h.makeDirectories hparent hmade
    have hrun := runIn_prepareParent_of_some world path hparent
    cases houtcome : (world.files.makeDirectories parent).2 with
    | ok _ =>
      rw [houtcome] at hrun
      refine writes_of_ok hrun hchanges fun other hother => ?_
      cases hparent.symm.trans hother
      exact hdirectory houtcome
    | error fault =>
      rw [houtcome] at hrun
      have hmem : parent ∈ pathsAbove path := List.mem_of_head? (pathsAbove_spec hparent).2.1
      exact writes_of_error hrun hchanges (hpaths parent hmem)

/-- Writing an output makes directories above it and writes the file, which holds the text
afterwards. -/
theorem writes_writeOutput (h : world.files.IsPlain)
    (hmade : ∀ above ∈ pathsAbove path, made (world.files.location above))
    (hwritten : written (world.files.location path)) (hpath : path ∈ paths)
    (hpaths : ∀ above ∈ pathsAbove path, above ∈ paths) :
    Writes made written paths world (writeOutput path text)
      fun files => files.Holds path text outputMode := by
  -- Each step starts from the changes of the steps before it, in a file system that is still plain.
  refine (writes_prepareParent h hmade hpaths).bind fun prepared hprepared hparent => ?_
  have hpreparedPlain := hprepared.isPlain h
  have hpreparedWritten : written (prepared.files.location path) :=
    hprepared.location_eq path ▸ hwritten
  have hwrite : Writes made written paths prepared
      (change path fun files => files.write path text.toUTF8)
      fun files => files.HasParent path ∧ endsWithSlash path = false ∧
        ∃ mode, files.node true path = .ok (.file text.toUTF8 mode) := by
    refine writes_change hpath fun later hlater => ?_
    obtain ⟨hchange, hslash, hnode⟩ : Change made written prepared.files later ∧ _ :=
      hpreparedPlain.write hpreparedWritten hlater
    have hchanges : Changes made written prepared.files later := .single hchange
    exact ⟨hchanges, fun parent hsome => hchanges.isDirectory hpreparedPlain (hparent parent hsome),
      hslash, hnode⟩
  refine hwrite.bind fun filled hfilled ⟨hparent, hslash, mode, hnode⟩ => ?_
  have hfilledPlain := hfilled.isPlain hpreparedPlain
  have hfilledWritten : written (filled.files.location path) :=
    hfilled.location_eq path ▸ hpreparedWritten
  have hset : Writes made written paths filled
      (change path fun files => files.setMode path outputMode)
      fun files => files.Holds path text outputMode := by
    refine writes_change hpath fun later hlater => ?_
    obtain ⟨hchange, hnode⟩ : Change made written filled.files later ∧ _ :=
      hfilledPlain.setMode hfilledWritten hnode hlater
    have hchanges : Changes made written filled.files later := .single hchange
    exact ⟨hchanges, fun parent hsome => hchanges.isDirectory hfilledPlain (hparent parent hsome),
      hslash, hnode⟩
  exact hset.bind fun reported _ hholds => writes_of_ok (runIn_report reported _) .refl hholds

end Steps

/-- What is reported when an output has been written. -/
def writtenEvent : Event := ⟨.debug, .writer, "Wrote output file"⟩

/-- Writing an output that is there already changes no file. -/
theorem runIn_writeOutput_of_holds {files : FileSystem} {path text : String}
    (hfile : files.Holds path text outputMode) (events : List Event) :
    runIn ⟨files, events⟩ (writeOutput path text) =
      (.ok (), ⟨files, events ++ [writtenEvent]⟩) := by
  unfold writeOutput
  rw [runIn_bind, runIn_prepareParent_of_hasParent ⟨files, events⟩ path hfile.parent]
  dsimp only
  rw [runIn_bind, runIn_change, hfile.write mayWrite_outputMode]
  dsimp only
  rw [runIn_bind, runIn_change, hfile.setMode]
  rfl

/-- An output that is written is put where its path leads, wherever links lead. -/
theorem exists_puts_of_writeOutput {world after : World} {path text : String}
    (hcurrent : world.files.entryAt? world.files.current = some .directory)
    (h : runIn world (writeOutput path text) = (.ok (), after)) :
    ∃ location, Puts world.files after.files path text.toUTF8 outputMode location := by
  unfold writeOutput at h
  obtain ⟨_, prepared, hprepare, h⟩ := runIn_bind_eq_ok h
  obtain ⟨_, filled, hwrite, h⟩ := runIn_bind_eq_ok h
  obtain ⟨_, done, hset, h⟩ := runIn_bind_eq_ok h
  have hprepared : Changes (fun _ => True) (fun _ => False) world.files prepared.files := by
    cases hparent : parentPath? path with
    | none =>
      rw [runIn_prepareParent_of_none world path hparent] at hprepare
      cases hprepare
      exact .refl
    | some parent =>
      rw [runIn_prepareParent_of_some world path hparent] at hprepare
      rw [← (Prod.mk.inj hprepare).2]
      exact (changes_makeDirectories hcurrent hparent fun _ _ _ _ _ _ => trivial).1
  obtain ⟨location, old, hputs⟩ : ∃ location old,
      Puts prepared.files filled.files path text.toUTF8 old location := by
    rw [runIn_change] at hwrite
    split at hwrite
    · rename_i later hlater
      cases hwrite
      exact exists_puts_of_write (hprepared.current hcurrent) hlater
    · exact nomatch hwrite
  have hset : Puts prepared.files done.files path text.toUTF8 outputMode location := by
    rw [runIn_change] at hset
    split at hset
    · rename_i later hlater
      cases hset
      exact hputs.setMode (hprepared.current hcurrent) hlater
    · exact nomatch hset
  rw [runIn_report] at h
  cases h
  refine ⟨location, ?_, hset.leads, hset.file⟩
  exact (hprepared.imp (fun _ => id) fun _ => False.elim).trans hset.changes

end ProgramConnector.Action
