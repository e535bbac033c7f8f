import ProgramConnector.Proofs.Files.Directory
import ProgramConnector.Proofs.Project.Writing
import ProgramConnector.Scaffold.Upgrade

/-!
# What an upgrade does to files

An upgrade reads the package description of the project first, and touches no file when that names
no version of the kit. Then it brings one scaffold file after the other to its bundled content. Each
of them is a file of its own, so what one step finds is what was there before the upgrade.
-/

namespace ProgramConnector

namespace Action

open FileSystem

variable {directory name path text : String} {location : List String} {world after : World}

/-- Only a path that can be given to a system call is written. -/
theorem pathFault?_of_writeOutput (h : runIn world (writeOutput path text) = (.ok (), after)) :
    pathFault? path = none := by
  obtain ⟨_, prepared, -, h⟩ := runIn_bind_eq_ok h
  obtain ⟨_, filled, hwrite, -⟩ := runIn_bind_eq_ok h
  rw [runIn_change] at hwrite
  split at hwrite
  · rename_i later hlater
    obtain ⟨-, place, -, hplace, -, -⟩ := write_eq_ok hlater
    unfold resolve at hplace
    split at hplace
    · exact nomatch hplace
    · assumption
  · exact nomatch hwrite

/-- Writing an output to a file of a directory replaces this file only. -/
theorem replaces_of_writeOutput (hslot : world.files.HasSlot directory name location)
    (h : runIn world (writeOutput (Path.join directory name) text) = (.ok (), after)) :
    Replaces world.files after.files (location ++ [name]) text.toUTF8 outputMode := by
  unfold writeOutput at h
  rw [runIn_bind, runIn_prepareParent_of_hasParent world _ hslot.hasParent] at h
  obtain ⟨_, filled, hwrite, h⟩ := runIn_bind_eq_ok h
  obtain ⟨_, finished, hset, h⟩ := runIn_bind_eq_ok h
  rw [runIn_report] at h
  rw [runIn_change] at hwrite hset
  cases h
  split at hwrite
  swap
  · exact nomatch hwrite
  rename_i written hwritten
  cases hwrite
  obtain ⟨-, place, mode, hplace, hwritable, rfl⟩ := write_eq_ok hwritten
  have hfirst := hslot.replaces_put hplace hwritable text.toUTF8 mode
  have hfilled := hfirst.hasSlot hslot
  -- The permission bits are set at the place that the file has been written to.
  have hentry : (world.files.put place.location (.file text.toUTF8 mode)).entryAt?
      (location ++ [name]) = some (.file text.toUTF8 mode) := by
    rw [hfirst.entryAt?, if_pos rfl]
  have hresolve : (world.files.put place.location (.file text.toUTF8 mode)).resolve true
      (Path.join directory name) = .ok (.taken (location ++ [name])) := by
    rw [hfilled.resolve, if_neg (hentry ▸ Option.some_ne_none _)]
  have hsecond := hfilled.replaces_put hresolve ⟨_, _, hentry⟩ text.toUTF8 outputMode
  dsimp only at hset
  unfold setMode at hset
  simp only [hresolve, Node.entryAt?_eq_file_iff.1 hentry, bind, Except.bind] at hset
  cases hset
  exact hfirst.trans hsecond

end Action

namespace Scaffold

open FileSystem ProgramConnector.Action

/-- What an upgrade does to the file at a path, judged by what is there. -/
inductive FileUpgrade (files : FileSystem) (path text : String) : Bool → FileAction → Prop where
  /-- A seeded file is kept where there is anything. -/
  | keep (there : files.holds path = true) : FileUpgrade files path text true .kept
  /-- A file is created where there is nothing. -/
  | create {seeded : Bool} (absent : files.holds path = false) :
    FileUpgrade files path text seeded .created
  /-- A file that cannot be read is created as well. -/
  | uncover {content : ByteArray} {mode : Nat}
    (node : files.node true path = .ok (.file content mode)) (hidden : mayRead mode = false) :
    FileUpgrade files path text false .created
  /-- A file of another checksum is updated. -/
  | update {content : ByteArray} {mode : Nat}
    (node : files.node true path = .ok (.file content mode)) (readable : mayRead mode = true)
    (differs : (Checksum.ofBytes content).isOf text.toUTF8 = false) :
    FileUpgrade files path text false .updated
  /-- A file of the same checksum is unchanged. -/
  | same {content : ByteArray} {mode : Nat}
    (node : files.node true path = .ok (.file content mode)) (readable : mayRead mode = true)
    (agrees : (Checksum.ofBytes content).isOf text.toUTF8 = true) :
    FileUpgrade files path text false .unchanged

/-- The scaffold files in the order in which they are upgraded, and whether they are seeded. -/
def scaffoldFiles : List (String × Bool) :=
  managedFiles.map (·, false) ++ seededFiles.map (·, true)

/-- Upgrades the scaffold files. -/
def upgradeFiles (directory : String) (scaffold : List (String × Bool)) :
    Action (List (String × FileAction)) :=
  scaffold.mapM fun file => upgradeFile directory file.1 file.2

/-- Whether a scaffold file is written. -/
def IsWritten (files : FileSystem) (directory : String) (file : String × Bool) : Prop :=
  file.2 = true → files.holds (Path.join directory file.1) = false

section Steps

variable {files : FileSystem} {directory name : String} {seeded : Bool}
  {location : List String} {world after : World} {entry : String × FileAction}

/-- Whether a scaffold file is written is decided by its slot. -/
theorem isWritten_iff (hslot : files.HasSlot directory name location) :
    IsWritten files directory (name, seeded) ↔
      (seeded = true → files.entryAt? (location ++ [name]) = none) := by
  unfold IsWritten
  rw [← Bool.not_eq_true, hslot.holds_iff, ne_eq, not_not]

/-- The action of a file that is written is judged by the entry in its slot, which is that of a
file if there is one. -/
theorem fileUpgrade_actionOf {text : String} (hslot : files.HasSlot directory name location)
    (hwritten : IsWritten files directory (name, seeded))
    (hbare : ∀ entry, files.entryAt? (location ++ [name]) = some entry →
      ∃ content mode, entry = .file content mode) :
    FileUpgrade files (Path.join directory name) text seeded
      (actionOf files (Path.join directory name) text) := by
  unfold actionOf
  cases hentry : files.entryAt? (location ++ [name]) with
  | none =>
    have habsent : files.holds (Path.join directory name) = false := by
      rw [← Bool.not_eq_true, hslot.holds_iff, ne_eq, not_not]
      exact hentry
    rw [hslot.read_eq, hentry]
    exact .create habsent
  | some entry =>
    obtain ⟨content, mode, rfl⟩ := hbare entry hentry
    have hnode : files.node true (Path.join directory name) = .ok (.file content mode) :=
      hslot.node_eq_ok_iff.2 (Node.entryAt?_eq_file_iff.1 hentry)
    have hmanaged : seeded = false := by
      rw [← Bool.not_eq_true]
      exact fun hseeded => nomatch hentry.symm.trans ((isWritten_iff hslot).1 hwritten hseeded)
    subst hmanaged
    rw [read_of_node hnode]
    cases hmode : mayRead mode with
    | false => exact .uncover hnode hmode
    | true =>
      rw [if_pos rfl]
      dsimp only
      split_ifs with hagrees
      · exact .same hnode hmode hagrees
      · exact .update hnode hmode (by simpa using hagrees)

/-- Writing a text to a file of a directory replaces the file, and is judged by what was there. -/
theorem install_spec {text : String} {action : FileAction}
    (hslot : pathFault? (Path.join directory name) = none →
      world.files.HasSlot directory name location)
    (hwritten : IsWritten world.files directory (name, seeded))
    (h : runIn world (install (Path.join directory name) text) = (.ok action, after)) :
    world.files.HasSlot directory name location ∧
      FileUpgrade world.files (Path.join directory name) text seeded action ∧
      Replaces world.files after.files (location ++ [name]) text.toUTF8 outputMode := by
  unfold install at h
  obtain ⟨files, start, hfiles, h⟩ := runIn_bind_eq_ok h
  cases hfiles
  obtain ⟨_, written, hwrite, h⟩ := runIn_bind_eq_ok h
  cases h
  have hthere := hslot (pathFault?_of_writeOutput hwrite)
  have hreplaces := replaces_of_writeOutput hthere hwrite
  exact ⟨hthere, fileUpgrade_actionOf hthere hwritten hreplaces.bare, hreplaces⟩

/-- What is reported when a scaffold file has been upgraded. -/
def upgradedEvent : Event := ⟨.info, .scaffold, "Upgraded scaffold file"⟩

/-- A file that is not written is kept. -/
theorem runIn_upgradeFile_of_kept (h : ¬ IsWritten world.files directory (name, seeded)) :
    runIn world (upgradeFile directory name seeded) =
      (.ok (Path.join directory name, .kept),
        { world with events := world.events ++ [upgradedEvent] }) := by
  obtain ⟨hseeded, hholds⟩ := Classical.not_imp.1 h
  have hkeep : (seeded && world.files.holds (Path.join directory name)) = true := by
    simp_all
  unfold upgradeFile
  rw [runIn_bind]
  change runIn world (if (seeded && world.files.holds (Path.join directory name)) = true
    then _ else _) = _
  rw [if_pos hkeep]
  rfl

/-- A file that is written is installed from the bundle. -/
theorem runIn_upgradeFile_of_written {text : String}
    (h : IsWritten world.files directory (name, seeded)) (htext : bundled name = .ok text) :
    runIn world (upgradeFile directory name seeded) =
      match runIn world (install (Path.join directory name) text) with
      | (.ok action, after) => (.ok (Path.join directory name, action),
          { after with events := after.events ++ [upgradedEvent] })
      | (.error failure, after) => (.error failure, after) := by
  have hkeep : ¬ (seeded && world.files.holds (Path.join directory name)) = true := by
    rw [Bool.and_eq_true]
    rintro ⟨hseeded, hholds⟩
    exact absurd ((h hseeded).symm.trans hholds) (by simp)
  unfold upgradeFile
  rw [runIn_bind]
  change runIn world (if (seeded && world.files.holds (Path.join directory name)) = true
    then _ else _) = _
  rw [if_neg hkeep, htext, runIn_bind, runIn_ofExcept]
  dsimp only
  rw [runIn_bind]
  rcases runIn world (install (Path.join directory name) text) with ⟨_ | _, _⟩ <;> rfl

/-- What upgrading one scaffold file does. -/
theorem upgradeFile_spec (hname : IsFileName name) (hbundled : ∃ text, bundled name = .ok text)
    (hslot : pathFault? (Path.join directory name) = none →
      world.files.HasSlot directory name location)
    (h : runIn world (upgradeFile directory name seeded) = (.ok entry, after)) :
    world.files.HasSlot directory name location ∧ entry.1 = Path.join directory name ∧
    ∃ text, bundled name = .ok text ∧
      FileUpgrade world.files (Path.join directory name) text seeded entry.2 ∧
      (¬ IsWritten world.files directory (name, seeded) ∧ after.files = world.files ∨
        IsWritten world.files directory (name, seeded) ∧
        Replaces world.files after.files (location ++ [name]) text.toUTF8 outputMode) := by
  obtain ⟨text, htext⟩ := hbundled
  by_cases hwritten : IsWritten world.files directory (name, seeded)
  · rw [runIn_upgradeFile_of_written hwritten htext] at h
    split at h
    · rename_i action written hinstall
      obtain ⟨hthere, hupgrade, hreplaces⟩ := install_spec hslot hwritten hinstall
      cases h
      exact ⟨hthere, rfl, text, htext, hupgrade, .inr ⟨hwritten, hreplaces⟩⟩
    · exact nomatch h
  · rw [runIn_upgradeFile_of_kept hwritten] at h
    cases h
    obtain ⟨hseeded, hholds⟩ := Classical.not_imp.1 hwritten
    have hthere : world.files.holds (Path.join directory name) = true := by simpa using hholds
    obtain ⟨node, hnode⟩ := holds_iff_exists_node.1 hthere
    obtain ⟨place, hplace, -⟩ := FileSystem.node_eq_ok_iff.1 hnode
    cases hseeded
    exact ⟨hslot (hname.exists_arrives hplace).1, rfl, text, htext, .keep hthere,
      .inl ⟨hwritten, rfl⟩⟩

/-- What an upgrade does to a file is decided by its slot. -/
theorem FileUpgrade.of_entryAt?_eq {later : FileSystem} {text : String} {action : FileAction}
    (hslot : files.HasSlot directory name location) (hlater : later.HasSlot directory name location)
    (hentry : later.entryAt? (location ++ [name]) = files.entryAt? (location ++ [name]))
    (h : FileUpgrade later (Path.join directory name) text seeded action) :
    FileUpgrade files (Path.join directory name) text seeded action := by
  have hholds :
      later.holds (Path.join directory name) = files.holds (Path.join directory name) := by
    rw [Bool.eq_iff_iff, hslot.holds_iff, hlater.holds_iff, hentry]
  have hnode {content : ByteArray} {mode : Nat}
      (hfile : later.node true (Path.join directory name) = .ok (.file content mode)) :
      files.node true (Path.join directory name) = .ok (.file content mode) := by
    have hfound := Node.entryAt?_eq_file_iff.2 (hlater.node_eq_ok_iff.1 hfile)
    exact hslot.node_eq_ok_iff.2 (Node.entryAt?_eq_file_iff.1 (hentry.symm.trans hfound))
  cases h with
  | keep there => exact .keep (hholds ▸ there)
  | create absent => exact .create (hholds ▸ absent)
  | uncover node hidden => exact .uncover (hnode node) hidden
  | update node readable differs => exact .update (hnode node) readable differs
  | same node readable agrees => exact .same (hnode node) readable agrees

end Steps

/-- Scaffold files have been upgraded: what was there before decides which of them are written, and
all else stays. -/
structure Upgraded (files later : FileSystem) (directory : String) (location : List String)
    (scaffold : List (String × Bool)) (entries : List (String × FileAction)) : Prop where
  /-- The working directory stays. -/
  current : later.current = files.current
  /-- The directory keeps its slots. -/
  slots : ∀ name, files.HasSlot directory name location → later.HasSlot directory name location
  /-- The report. -/
  entries : List.Forall₂ (fun file entry => files.HasSlot directory file.1 location ∧
    entry.1 = Path.join directory file.1 ∧ ∃ text, bundled file.1 = .ok text ∧
      FileUpgrade files (Path.join directory file.1) text file.2 entry.2 ∧
      (IsWritten files directory file →
        later.entryAt? (location ++ [file.1]) = some (.file text.toUTF8 outputMode)))
    scaffold entries
  /-- The entries of files that are not written. -/
  others : ∀ other, (∀ file ∈ scaffold, IsWritten files directory file →
    other ≠ location ++ [file.1]) → later.entryAt? other = files.entryAt? other

section Runs

variable {files middle later : FileSystem} {directory : String} {location : List String}
  {scaffold : List (String × Bool)} {entries : List (String × FileAction)}

/-- A file is upgraded before the others. -/
theorem Upgraded.cons {file : String × Bool} {entry : String × FileAction} {text : String}
    (hfresh : ∀ other ∈ scaffold, other.1 ≠ file.1)
    (hbefore : ∀ other ∈ scaffold, middle.HasSlot directory other.1 location →
      files.HasSlot directory other.1 location)
    (hslot : files.HasSlot directory file.1 location) (hpath : entry.1 = Path.join directory file.1)
    (htext : bundled file.1 = .ok text)
    (hupgrade : FileUpgrade files (Path.join directory file.1) text file.2 entry.2)
    (hchange : ¬ IsWritten files directory file ∧ middle = files ∨ IsWritten files directory file ∧
      Replaces files middle (location ++ [file.1]) text.toUTF8 outputMode)
    (h : Upgraded middle later directory location scaffold entries) :
    Upgraded files later directory location (file :: scaffold) (entry :: entries) := by
  have hcurrent : middle.current = files.current := by
    rcases hchange with ⟨-, rfl⟩ | ⟨-, hreplaces⟩
    · rfl
    · exact hreplaces.current
  have hkeeps (name : String) (hname : files.HasSlot directory name location) :
      middle.HasSlot directory name location := by
    rcases hchange with ⟨-, rfl⟩ | ⟨-, hreplaces⟩
    · exact hname
    · exact hreplaces.hasSlot hname
  have hsame (other : List String)
      (hother : IsWritten files directory file → other ≠ location ++ [file.1]) :
      middle.entryAt? other = files.entryAt? other := by
    rcases hchange with ⟨-, rfl⟩ | ⟨hwritten, hreplaces⟩
    · rfl
    · rw [hreplaces.entryAt?, if_neg (hother hwritten)]
  -- The other files are found as they were before.
  obtain ⟨hthere, -⟩ := (List.forall₂_and_left _ _).1 h.entries
  have hslots (other : String × Bool) (hmem : other ∈ scaffold) :
      middle.entryAt? (location ++ [other.1]) = files.entryAt? (location ++ [other.1]) ∧
        files.HasSlot directory other.1 location ∧
        (IsWritten middle directory other ↔ IsWritten files directory other) := by
    have hentry := hsame (location ++ [other.1]) fun _ heq => hfresh other hmem (by simpa using heq)
    have hbefore := hbefore other hmem (hthere other hmem)
    have hafter : IsWritten middle directory (other.1, other.2) ↔ _ :=
      isWritten_iff (hthere other hmem)
    rw [hentry] at hafter
    exact ⟨hentry, hbefore, hafter.trans (isWritten_iff hbefore).symm⟩
  constructor
  · exact h.current.trans hcurrent
  · exact fun name hname => h.slots name (hkeeps name hname)
  · refine .cons ⟨hslot, hpath, text, htext, hupgrade, fun hwritten => ?_⟩ ?_
    · rw [h.others _ fun other hmem _ heq => hfresh other hmem (by simpa using heq.symm)]
      rcases hchange with ⟨hnot, -⟩ | ⟨-, hreplaces⟩
      · exact absurd hwritten hnot
      · rw [hreplaces.entryAt?, if_pos rfl]
    · refine ((List.forall₂_and_left _ _).2 ⟨hslots, h.entries⟩).imp ?_
      rintro other result ⟨⟨hentry, hbefore, hwritten⟩, hafter, hpath, text, htext, hupgrade, hheld⟩
      exact ⟨hbefore, hpath, text, htext, hupgrade.of_entryAt?_eq hbefore hafter hentry,
        fun hnow => hheld (hwritten.2 hnow)⟩
  · intro other hother
    obtain ⟨hfile, hrest⟩ := List.forall_mem_cons.1 hother
    rw [h.others other fun next hmem hnext => hrest next hmem ((hslots next hmem).2.2.1 hnext)]
    exact hsame other hfile

/-- What upgrading scaffold files of different names does. -/
theorem upgradeFiles_spec {world after : World} (hfresh : (scaffold.map Prod.fst).Nodup)
    (hnames : ∀ file ∈ scaffold, IsFileName file.1 ∧ ∃ text, bundled file.1 = .ok text)
    (hslot : ∀ name, IsFileName name → pathFault? (Path.join directory name) = none →
      world.files.HasSlot directory name location)
    (h : runIn world (upgradeFiles directory scaffold) = (.ok entries, after)) :
    Upgraded world.files after.files directory location scaffold entries := by
  induction scaffold generalizing world entries with
  | nil =>
    cases h
    exact ⟨rfl, fun _ hslot => hslot, .nil, fun _ _ => rfl⟩
  | cons file scaffold ih =>
    obtain ⟨hfile, hrest⟩ := List.nodup_cons.1 hfresh
    obtain ⟨⟨hname, hbundled⟩, hothers⟩ := List.forall_mem_cons.1 hnames
    unfold upgradeFiles at h
    rw [List.mapM_cons] at h
    obtain ⟨entry, middle, hfirst, h⟩ := runIn_bind_eq_ok h
    obtain ⟨rest, finished, hthen, h⟩ := runIn_bind_eq_ok h
    cases h
    obtain ⟨hthere, hpath, text, htext, hupgrade, hchange⟩ :=
      upgradeFile_spec hname hbundled (hslot _ hname) hfirst
    have hkeeps (name : String) (hslot : world.files.HasSlot directory name location) :
        middle.files.HasSlot directory name location := by
      rcases hchange with ⟨-, hsame⟩ | ⟨-, hreplaces⟩
      · rw [hsame]
        exact hslot
      · exact hreplaces.hasSlot hslot
    have hupgraded := ih hrest hothers (fun name hname haccepted =>
      hkeeps name (hslot name hname haccepted)) hthen
    refine hupgraded.cons (fun other hmem heq => hfile (heq ▸ List.mem_map_of_mem hmem)) ?_ hthere
      hpath htext hupgrade hchange
    exact fun other hmem hother => hslot _ (hothers other hmem).1 hother.accepted

end Runs

end Scaffold

end ProgramConnector
