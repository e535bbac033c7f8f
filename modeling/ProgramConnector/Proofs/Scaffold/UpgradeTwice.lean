import ProgramConnector.Proofs.Scaffold.UpgradeEffect

/-!
# Upgrading a project

An upgrade of a project whose package description names no version of the kit fails and changes no
file. An upgrade that succeeds leaves the bundled content in all managed files, touches no seeded
file that was there, and reports for each file what became of it. It can then be repeated without a
change.

The report is judged by what can be read. So a managed file that is there but cannot be read is
reported as created, whatever it holds, and the report is right about all other files.
-/

namespace ProgramConnector

/-- Bytes have their own checksum. -/
theorem Checksum.isOf_ofBytes (bytes : ByteArray) : (ofBytes bytes).isOf bytes = true :=
  beq_self_eq_true (ofBytes bytes)

namespace Scaffold

open FileSystem ProgramConnector.Action

/-- Why the package description at a path names no version of the kit. -/
inductive PackageFault (files : FileSystem) (path : String) : Failure → Prop where
  /-- There is no text at the path. -/
  | unread {fault : OsError} (read : files.readText path = .error fault) :
    PackageFault files path (.io path fault)
  /-- The text is no document. -/
  | notJson {text : String} {problem : Problem} (read : files.readText path = .ok text)
    (parse : Json.ofText text = .error problem) : PackageFault files path (.unreadable path problem)
  /-- The document has no text for the kit among its dependencies. -/
  | noVersion {text : String} {description : Json} (read : files.readText path = .ok text)
    (parse : Json.ofText text = .ok description) (version : kitVersionOf? description = none) :
    PackageFault files path (.scaffold (kitPackage ++ " not found in dependencies at " ++ path))

/-- A managed file is there, but it does not let its owner read it. -/
def IsHidden (files : FileSystem) (directory name : String) : Prop :=
  name ∈ managedFiles ∧ ∃ content mode,
    files.node true (Path.join directory name) = .ok (.file content mode) ∧ mayRead mode = false

/-- What is to be reported for a scaffold file. -/
structure IsReported (files : FileSystem) (directory name : String)
    (entry : String × FileAction) : Prop where
  /-- The file. -/
  path : entry.1 = Path.join directory name
  /-- A file is created when there was nothing. -/
  created : entry.2 = .created ↔ files.holds (Path.join directory name) = false
  /-- A file is kept when it is a seeded one that was there. -/
  kept : entry.2 = .kept ↔ name ∈ seededFiles ∧ files.holds (Path.join directory name) = true
  /-- A managed file that had its content is unchanged. -/
  unchanged : name ∈ managedFiles → ∀ text mode, bundled name = .ok text →
    files.node true (Path.join directory name) = .ok (.file text.toUTF8 mode) →
    entry.2 = .unchanged
  /-- A file that is updated had another content. -/
  updated : entry.2 = .updated → ∃ text content mode, bundled name = .ok text ∧
    files.node true (Path.join directory name) = .ok (.file content mode) ∧ content ≠ text.toUTF8

/-- What an upgrade reports for a scaffold file. -/
structure IsReportEntry (files : FileSystem) (directory name : String)
    (entry : String × FileAction) : Prop where
  /-- The entry is right unless the file is hidden. -/
  right : IsReported files directory name entry ↔ ¬ IsHidden files directory name
  /-- A hidden file is reported as created. -/
  hidden : IsHidden files directory name → entry = (Path.join directory name, .created)

/-- What an upgrade that succeeds has done. -/
structure IsUpgraded (files later : FileSystem) (directory : String) (report : UpgradeReport) :
    Prop where
  /-- Managed files hold their content. -/
  managed : ∀ name ∈ managedFiles, ∃ text, bundled name = .ok text ∧
    later.Holds (Path.join directory name) text outputMode
  /-- Seeded files that were there keep theirs. -/
  kept : ∀ name ∈ seededFiles, ∀ content mode,
    files.node true (Path.join directory name) = .ok (.file content mode) →
    later.node true (Path.join directory name) = .ok (.file content mode)
  /-- Seeded files that were not there hold theirs. -/
  seeded : ∀ name ∈ seededFiles, files.holds (Path.join directory name) = false →
    ∃ text, bundled name = .ok text ∧ later.Holds (Path.join directory name) text outputMode
  /-- Nothing else is changed. -/
  others : ∃ location, files.resolve true (Path.join directory ".") = .ok (.taken location) ∧
    ∀ other, (∀ name ∈ managedFiles, other ≠ location ++ [name]) →
      (∀ name ∈ seededFiles, files.holds (Path.join directory name) = false →
        other ≠ location ++ [name]) → later.entryAt? other = files.entryAt? other
  /-- The working directory is not changed either. -/
  current : later.current = files.current
  /-- The report. -/
  reports : List.Forall₂ (IsReportEntry files directory) (managedFiles ++ seededFiles) report.files

/-- The version of the kit that the package description at a path names. -/
def currentVersion (files : FileSystem) (path : String) : Except Failure String :=
  match files.readText path with
  | .error fault => .error (.io path fault)
  | .ok text => kitVersion text path

/-- The package description is bundled. -/
theorem bundled_packageFile : bundled packageFile = .ok packageDescription := by
  have hhelpers : Path.same "utils.ts" packageFile = false := by decide
  have hschema : Path.same "configuration.schema.json" packageFile = false := by decide
  have hconfiguration : Path.same "configuration.json" packageFile = false := by decide
  have hpackage : Path.same packageFile packageFile = true := by decide
  simp only [bundled, bundle, List.find?_cons, hhelpers, hschema, hconfiguration, hpackage]

/-- The version of the kit in the bundled package description. -/
theorem kitVersion_packageDescription :
    kitVersion packageDescription packageFile = .ok "1.13.1" := by
  rw [kitVersion, Json.ofText, Json.ofTextRaw, packageDescription, String.toList_join]
  exact eq_ok_of_toOption (by decide +kernel)

/-- The package description and the scaffold files have names of files. -/
theorem isFileName_of_mem {name : String}
    (h : name ∈ packageFile :: scaffoldFiles.map Prod.fst) : IsFileName name := by
  have hall : ∀ name ∈ packageFile :: scaffoldFiles.map Prod.fst, IsFileName name := by decide
  exact hall name h

/-- The scaffold files are bundled. -/
theorem bundled_of_mem {file : String × Bool} (h : file ∈ scaffoldFiles) :
    ∃ text, bundled file.1 = .ok text := by
  have hall : ∀ file ∈ scaffoldFiles, (bundled file.1).toBool = true := by decide
  have hfile := hall file h
  cases hbundled : bundled file.1 with
  | ok text => exact ⟨text, rfl⟩
  | error failure =>
    rw [hbundled] at hfile
    exact nomatch hfile

/-- The scaffold files that are seeded are those that are not managed. -/
theorem mem_seededFiles_iff {file : String × Bool} (h : file ∈ scaffoldFiles) :
    (file.1 ∈ seededFiles ↔ file.2 = true) ∧ (file.1 ∈ managedFiles ↔ file.2 = false) := by
  have hall : ∀ file ∈ scaffoldFiles, (file.1 ∈ seededFiles ↔ file.2 = true) ∧
      (file.1 ∈ managedFiles ↔ file.2 = false) := by decide
  exact hall file h

section Runs

variable {files later : FileSystem} {directory path : String} {failure : Failure}
  {location : List String} {entries : List (String × FileAction)}

/-- A package description with a fault gives no version. -/
theorem PackageFault.currentVersion_eq (h : PackageFault files path failure) :
    currentVersion files path = .error failure := by
  unfold currentVersion
  cases h with
  | unread read => rw [read]
  | notJson read parse =>
    rw [read]
    dsimp only
    rw [kitVersion, parse]
  | noVersion read parse version =>
    rw [read]
    dsimp only
    rw [kitVersion, parse]
    dsimp only
    rw [version]

/-- Reading the version that a package description names leaves the world alone. -/
theorem runIn_readVersion (world : World) (path : String) :
    runIn world (readPackage path >>= fun text => Action.ofExcept (kitVersion text path)) =
      (currentVersion world.files path, world) := by
  have hpackage : runIn world (readPackage path) =
      ((world.files.readText path).mapError (.io path), world) := by
    unfold readPackage
    rw [runIn_bind, runIn_files]
    dsimp only
    cases world.files.readText path <;> rfl
  rw [runIn_bind, hpackage, currentVersion]
  cases world.files.readText path with
  | error fault => rfl
  | ok text => exact runIn_ofExcept world (kitVersion text path)

/-- The managed files are upgraded before the seeded ones. -/
theorem upgradeFiles_scaffoldFiles (directory : String) :
    upgradeFiles directory scaffoldFiles = do
      let managed ← managedFiles.mapM fun name => upgradeFile directory name false
      let seeded ← seededFiles.mapM fun name => upgradeFile directory name true
      return managed ++ seeded := by
  unfold upgradeFiles scaffoldFiles
  rw [List.mapM_append, List.mapM_map, List.mapM_map]
  rfl

/-- What is reported when an upgrade starts. -/
def startEvent : Event := ⟨.info, .scaffold, "Upgrading SDK to version"⟩

/-- What is reported when the version of a project has been read. -/
def versionEvent : Event := ⟨.info, .scaffold, "Current SDK version"⟩

/-- What is reported when all files have been upgraded. -/
def finishEvents (report : UpgradeReport) : List Event :=
  (if report.upgradeRequired then [⟨.warn, .scaffold, upgradeAdvice report.target⟩] else []) ++
    [⟨.info, .scaffold, "Upgrade complete"⟩]

/-- The end of an upgrade only reports. -/
theorem runIn_finish (world : World) (report : UpgradeReport) :
    runIn world (do
      if report.upgradeRequired then
        Action.report [⟨.warn, .scaffold, upgradeAdvice report.target⟩]
      Action.report [⟨.info, .scaffold, "Upgrade complete"⟩]
      return report) = (.ok report, ⟨world.files, world.events ++ finishEvents report⟩) := by
  unfold finishEvents
  cases report.upgradeRequired with
  | true =>
    rw [if_pos rfl, if_pos rfl, runIn_bind, runIn_report]
    dsimp only
    rw [runIn_bind, runIn_report]
    dsimp only
    rw [runIn_pure, List.append_assoc]
  | false =>
    rw [if_neg Bool.false_ne_true, if_neg Bool.false_ne_true, runIn_bind, runIn_report]
    dsimp only
    rw [runIn_pure, List.nil_append]

/-- An upgrade reads the version, and then upgrades one scaffold file after the other. -/
theorem runIn_upgrade (files : FileSystem) (directory : String) (events : List Event) :
    runIn ⟨files, events⟩ (upgrade directory) =
      match currentVersion files (Path.join directory packageFile) with
      | .error failure => (.error failure, ⟨files, events ++ [startEvent]⟩)
      | .ok current =>
        match runIn ⟨files, events ++ [startEvent] ++ [versionEvent]⟩
          (upgradeFiles directory scaffoldFiles) with
        | (.ok entries, after) => (.ok ⟨"1.13.1", current, entries⟩,
            ⟨after.files, after.events ++ finishEvents ⟨"1.13.1", current, entries⟩⟩)
        | (.error failure, after) => (.error failure, after) := by
  have hthen (next : String → Except Failure String) (text : String) :
    (Except.ok text >>= next) = next text := rfl
  unfold upgrade
  rw [bundled_packageFile, hthen, kitVersion_packageDescription, runIn_bind, runIn_ofExcept]
  dsimp only
  rw [runIn_bind, runIn_report]
  dsimp only
  rw [← bind_assoc, runIn_bind, runIn_readVersion]
  dsimp only
  cases currentVersion files (Path.join directory packageFile) with
  | error failure => rfl
  | ok current =>
    dsimp only
    rw [runIn_bind, runIn_report]
    dsimp only
    rw [upgradeFiles_scaffoldFiles, runIn_bind, runIn_bind]
    unfold startEvent versionEvent
    rcases runIn _ (managedFiles.mapM _) with ⟨_ | managed, middle⟩
    · rfl
    · dsimp only
      rw [runIn_bind, runIn_bind]
      rcases runIn middle (seededFiles.mapM _) with ⟨_ | seeded, after⟩
      · rfl
      · exact runIn_finish after ⟨"1.13.1", current, managed ++ seeded⟩

/-- A version that is named is read from something that is there. -/
theorem exists_node_of_currentVersion {current : String}
    (h : currentVersion files path = .ok current) : ∃ node, files.node true path = .ok node := by
  unfold currentVersion at h
  cases hread : files.readText path with
  | error fault =>
    rw [hread] at h
    exact nomatch h
  | ok text =>
    obtain ⟨content, hcontent, -⟩ := bind_eq_ok hread
    obtain ⟨node, hnode, -⟩ := bind_eq_ok hcontent
    exact ⟨node, hnode⟩

/-- An upgrade that succeeds has found the package description and upgraded all scaffold files. -/
theorem upgrade_spec {report : UpgradeReport} {events : List Event} {after : World}
    (hlinks : files.IsLinkFree directory)
    (h : runIn ⟨files, events⟩ (upgrade directory) = (.ok report, after)) :
    ∃ location current entries, files.HasSlot directory packageFile location ∧
      currentVersion files (Path.join directory packageFile) = .ok current ∧
      report = ⟨"1.13.1", current, entries⟩ ∧
      Upgraded files after.files directory location scaffoldFiles entries := by
  rw [runIn_upgrade] at h
  cases hcurrent : currentVersion files (Path.join directory packageFile) with
  | error failure =>
    rw [hcurrent] at h
    exact nomatch h
  | ok current =>
    obtain ⟨node, hnode⟩ := exists_node_of_currentVersion hcurrent
    obtain ⟨location, hslot⟩ :=
      hlinks.exists_hasSlot (isFileName_of_mem List.mem_cons_self) hnode
    rw [hcurrent] at h
    dsimp only at h
    split at h
    · rename_i entries done hfiles
      cases h
      have hnames (file : String × Bool) (hfile : file ∈ scaffoldFiles) :
          IsFileName file.1 ∧ ∃ text, bundled file.1 = .ok text :=
        ⟨isFileName_of_mem (List.mem_cons_of_mem _ (List.mem_map_of_mem hfile)),
          bundled_of_mem hfile⟩
      have hupgraded := upgradeFiles_spec (by decide) hnames
        (fun name hname haccepted => hslot.of_slot hlinks hname haccepted) hfiles
      exact ⟨location, current, entries, hslot, rfl, rfl, hupgraded⟩
    · exact nomatch h

/-- Bytes that do not have the checksum of others are not the same. -/
theorem ne_of_isOf_eq_false {content bytes : ByteArray}
    (h : (Checksum.ofBytes content).isOf bytes = false) : content ≠ bytes := by
  rintro rfl
  exact absurd (h.symm.trans (Checksum.isOf_ofBytes _)) (by simp)

/-- A file that is rightly reported as created is not hidden. -/
theorem IsReported.not_isHidden {name : String} {entry : String × FileAction}
    (h : IsReported files directory name entry) (hcreated : entry.2 = .created) :
    ¬ IsHidden files directory name := by
  rintro ⟨-, content, mode, hnode, -⟩
  have habsent := h.created.1 hcreated
  rw [holds_of_node hnode] at habsent
  exact nomatch habsent

/-- What is reported for an upgraded file, unless it is hidden. -/
theorem FileUpgrade.isReported {name text : String} {seeded : Bool}
    {entry : String × FileAction} (hfile : (name, seeded) ∈ scaffoldFiles)
    (hpath : entry.1 = Path.join directory name) (htext : bundled name = .ok text)
    (h : FileUpgrade files (Path.join directory name) text seeded entry.2)
    (hhidden : ¬ IsHidden files directory name) : IsReported files directory name entry := by
  obtain ⟨hseeded, hmanaged⟩ := mem_seededFiles_iff hfile
  obtain ⟨_, action⟩ := entry
  dsimp only at hseeded hmanaged hpath h
  have hsame {other : String} (hother : bundled name = .ok other) : other = text :=
    Except.ok.inj (hother.symm.trans htext)
  cases h with
  | keep there =>
    refine ⟨hpath, by simp [there], by simp [there, hseeded], fun hmem => ?_, nofun⟩
    exact absurd (hmanaged.1 hmem) (by simp)
  | create absent =>
    refine ⟨hpath, by simp [absent], by simp [absent], fun _ _ _ _ hnode => ?_, nofun⟩
    exact absurd (absent.symm.trans (holds_of_node hnode)) (by simp)
  | uncover node hidden => exact absurd ⟨hmanaged.2 rfl, _, _, node, hidden⟩ hhidden
  | @update content mode node readable differs =>
    have hdiffers := ne_of_isOf_eq_false differs
    refine ⟨hpath, by simp [holds_of_node node], by simp [hseeded], fun _ other _ hother hnode => ?_,
      fun _ => ⟨text, content, mode, htext, node, hdiffers⟩⟩
    cases hsame hother
    cases node.symm.trans hnode
    exact absurd rfl hdiffers
  | same node readable agrees =>
    exact ⟨hpath, by simp [holds_of_node node], by simp [hseeded], fun _ _ _ _ _ => rfl, nofun⟩

/-- A hidden file is reported as created. -/
theorem FileUpgrade.created {name text : String} {seeded : Bool} {action : FileAction}
    (hfile : (name, seeded) ∈ scaffoldFiles) (hhidden : IsHidden files directory name)
    (h : FileUpgrade files (Path.join directory name) text seeded action) :
    action = .created := by
  obtain ⟨hmem, _, _, hnode, hmode⟩ := hhidden
  have hmanaged := (mem_seededFiles_iff hfile).2.1 hmem
  cases h with
  | keep there => exact nomatch hmanaged
  | create absent => rfl
  | uncover node hidden => rfl
  | update node readable differs =>
    cases node.symm.trans hnode
    exact nomatch readable.symm.trans hmode
  | same node readable agrees =>
    cases node.symm.trans hnode
    exact nomatch readable.symm.trans hmode

/-- A managed file is always written. -/
theorem isWritten_managed (files : FileSystem) (directory name : String) :
    IsWritten files directory (name, false) := nofun

/-- Each upgraded scaffold file has an entry in the report. -/
theorem Upgraded.exists_entry {scaffold : List (String × Bool)} {file : String × Bool}
    (h : Upgraded files later directory location scaffold entries) (hfile : file ∈ scaffold) :
    files.HasSlot directory file.1 location ∧ ∃ text, bundled file.1 = .ok text ∧
      (IsWritten files directory file →
        later.entryAt? (location ++ [file.1]) = some (.file text.toUTF8 outputMode)) := by
  have hentries := h.entries.imp fun file entry ⟨hslot, _, text, htext, _, hheld⟩ =>
    And.intro (And.intro hslot (Exists.intro text (And.intro htext hheld))) trivial
  exact ((List.forall₂_and_left _ _).1 hentries).1 file hfile

/-- Scaffold files that have been upgraded hold their content where they were written. -/
theorem Upgraded.holds (h : Upgraded files later directory location scaffoldFiles entries)
    {file : String × Bool} (hfile : file ∈ scaffoldFiles)
    (hwritten : IsWritten files directory file) : ∃ text, bundled file.1 = .ok text ∧
      later.Holds (Path.join directory file.1) text outputMode := by
  obtain ⟨hslot, text, htext, hheld⟩ := h.exists_entry hfile
  exact ⟨text, htext, (h.slots _ hslot).holds_text (hheld hwritten)⟩

/-- A seeded file that was there is not touched. -/
theorem Upgraded.entryAt?_seeded
    (h : Upgraded files later directory location scaffoldFiles entries) {name : String}
    (hname : name ∈ seededFiles) (hthere : files.holds (Path.join directory name) = true) :
    later.entryAt? (location ++ [name]) = files.entryAt? (location ++ [name]) := by
  refine h.others _ fun file hfile hwritten heq => ?_
  obtain rfl : name = file.1 := by simpa using heq
  exact absurd ((hwritten ((mem_seededFiles_iff hfile).1.1 hname)).symm.trans hthere) (by simp)

/-- Scaffold files that have been upgraded are those of an upgraded project. -/
theorem Upgraded.isUpgraded {target current : String}
    (hdot : files.resolve true (Path.join directory ".") = .ok (.taken location))
    (h : Upgraded files later directory location scaffoldFiles entries) :
    IsUpgraded files later directory ⟨target, current, entries⟩ := by
  have hmanaged {name : String} (hname : name ∈ managedFiles) : (name, false) ∈ scaffoldFiles :=
    List.mem_append_left _ (List.mem_map_of_mem hname)
  have hseeded {name : String} (hname : name ∈ seededFiles) : (name, true) ∈ scaffoldFiles :=
    List.mem_append_right _ (List.mem_map_of_mem hname)
  constructor
  · intro name hname
    have hheld := h.holds (hmanaged hname) (isWritten_managed files directory name)
    exact hheld
  · intro name hname content mode hnode
    obtain ⟨hslot, -⟩ := h.exists_entry (hseeded hname)
    have hentry := Node.entryAt?_eq_file_iff.2 (hslot.node_eq_ok_iff.1 hnode)
    rw [← FileSystem.entryAt?, ← h.entryAt?_seeded hname (holds_of_node hnode)] at hentry
    exact (h.slots name hslot).node_eq_ok_iff.2 (Node.entryAt?_eq_file_iff.1 hentry)
  · intro name hname habsent
    have hheld := h.holds (hseeded hname) fun _ => habsent
    exact hheld
  · refine ⟨location, hdot, fun other hmanagedOther hseededOther => ?_⟩
    refine h.others other fun file hfile hwritten => ?_
    cases hkind : file.2 with
    | false => exact hmanagedOther file.1 ((mem_seededFiles_iff hfile).2.2 hkind)
    | true => exact hseededOther file.1 ((mem_seededFiles_iff hfile).1.2 hkind) (hwritten hkind)
  · exact h.current
  · have hall := (List.forall₂_and_left scaffoldFiles entries).2 ⟨fun _ hfile => hfile, h.entries⟩
    have hreports : List.Forall₂ (fun file => IsReportEntry files directory file.1) scaffoldFiles
        entries := by
      refine hall.imp ?_
      rintro file entry ⟨hfile, -, hpath, text, htext, hupgrade, -⟩
      have hcreated (hhidden : IsHidden files directory file.1) : entry.2 = .created :=
        hupgrade.created hfile hhidden
      refine ⟨⟨fun hright hhidden => ?_, hupgrade.isReported hfile hpath htext⟩, fun hhidden => ?_⟩
      · exact hright.not_isHidden (hcreated hhidden) hhidden
      · exact Prod.ext hpath (hcreated hhidden)
    exact List.forall₂_map_left_iff.2 hreports

/-- A scaffold file is upgraded again without a change. -/
theorem runIn_upgradeFile_again (h : Upgraded files later directory location scaffoldFiles entries)
    {file : String × Bool} (hfile : file ∈ scaffoldFiles) (events : List Event) :
    ∃ reported, runIn ⟨later, events⟩ (upgradeFile directory file.1 file.2) =
      (.ok (Path.join directory file.1, if file.2 then .kept else .unchanged),
        ⟨later, reported⟩) := by
  obtain ⟨hslot, -⟩ := h.exists_entry hfile
  have hlater := h.slots _ hslot
  cases hkind : file.2 with
  | true =>
    -- A seeded file is there now, whether it was there before or not.
    have hthere : later.holds (Path.join directory file.1) = true := by
      cases hbefore : files.holds (Path.join directory file.1) with
      | true =>
        have hname := (mem_seededFiles_iff hfile).1.2 hkind
        rw [hlater.holds_iff, h.entryAt?_seeded hname hbefore, ← hslot.holds_iff, hbefore]
      | false =>
        obtain ⟨text, -, hheld⟩ := h.holds hfile fun _ => hbefore
        exact holds_of_node hheld.node
    have hkept : ¬ IsWritten later directory (file.1, true) :=
      fun hwritten => absurd ((hwritten rfl).symm.trans hthere) (by simp)
    exact ⟨_, runIn_upgradeFile_of_kept hkept⟩
  | false =>
    have hwritten : IsWritten files directory file :=
      fun hseeded => nomatch hkind.symm.trans hseeded
    obtain ⟨text, htext, hheld⟩ := h.holds hfile hwritten
    have haction : actionOf later (Path.join directory file.1) text = .unchanged := by
      rw [actionOf, read_of_node hheld.node, if_pos mayRead_outputMode]
      dsimp only
      rw [if_pos (Checksum.isOf_ofBytes text.toUTF8)]
    have hagain : IsWritten (World.mk later events).files directory (file.1, false) :=
      isWritten_managed later directory file.1
    rw [runIn_upgradeFile_of_written hagain htext]
    have hinstall : runIn ⟨later, events⟩ (install (Path.join directory file.1) text) =
        (.ok .unchanged, ⟨later, events ++ [writtenEvent]⟩) := by
      unfold install
      rw [runIn_bind, runIn_files]
      dsimp only
      rw [runIn_bind, runIn_writeOutput_of_holds hheld, haction]
      rfl
    rw [hinstall]
    exact ⟨_, rfl⟩

/-- An upgrade of upgraded files changes nothing. -/
theorem upgrade_again {current : String} (hslot : files.HasSlot directory packageFile location)
    (hcurrent : currentVersion files (Path.join directory packageFile) = .ok current)
    (h : Upgraded files later directory location scaffoldFiles entries) (events : List Event) :
    ∃ reported, runIn ⟨later, events⟩ (upgrade directory) =
      (.ok ⟨"1.13.1", current, managedFiles.map (fun name => (Path.join directory name, .unchanged))
        ++ seededFiles.map fun name => (Path.join directory name, .kept)⟩, ⟨later, reported⟩) := by
  have hentry : later.entryAt? (location ++ [packageFile]) =
      files.entryAt? (location ++ [packageFile]) := by
    refine h.others _ fun file hfile _ heq => ?_
    have hname : packageFile = file.1 := by simpa using heq
    have hapart : packageFile ∉ scaffoldFiles.map Prod.fst := by decide
    exact hapart (hname ▸ List.mem_map_of_mem hfile)
  have hread : currentVersion later (Path.join directory packageFile) = .ok current := by
    rw [← hcurrent, currentVersion, currentVersion, readText, readText, hslot.read_eq,
      (h.slots _ hslot).read_eq, hentry]
  obtain ⟨reported, hfiles⟩ := runIn_mapM_of_stays
    (fun file hfile events => runIn_upgradeFile_again h hfile events)
    (events ++ [startEvent] ++ [versionEvent])
  rw [runIn_upgrade, hread]
  dsimp only
  rw [upgradeFiles, hfiles]
  exact ⟨_, rfl⟩

/-- An upgrade of a project without links fails and changes no file when the package description
names no version of the kit. When it succeeds, it has changed no other file than those that it is
for, its report is right about every file that is not hidden, and upgrading again succeeds, changes
nothing, and reports that. -/
theorem upgrade_outcome (h : files.IsLinkFree directory) (events : List Event) :
    (∀ failure, PackageFault files (Path.join directory packageFile) failure → ∃ reported,
      runIn ⟨files, events⟩ (upgrade directory) = (.error failure, ⟨files, reported⟩)) ∧
    ∀ report after, runIn ⟨files, events⟩ (upgrade directory) = (.ok report, after) →
      IsUpgraded files after.files directory report ∧
      ∀ again, ∃ reported, runIn ⟨after.files, again⟩ (upgrade directory) =
        (.ok ⟨report.target, report.current,
          managedFiles.map (fun name => (Path.join directory name, .unchanged)) ++
            seededFiles.map fun name => (Path.join directory name, .kept)⟩,
          ⟨after.files, reported⟩) := by
  constructor
  · intro failure hfault
    rw [runIn_upgrade, hfault.currentVersion_eq]
    exact ⟨_, rfl⟩
  · intro report after hrun
    obtain ⟨location, current, entries, hslot, hcurrent, rfl, hupgraded⟩ := upgrade_spec h hrun
    exact ⟨hupgraded.isUpgraded hslot.resolve_dot, upgrade_again hslot hcurrent hupgraded⟩

end Runs

/-- A project with its own configuration, and with a bundled file that nobody may read. -/
def hiddenProject : Node :=
  .directory [
    ("package.json", .file "\x7b\"dependencies\":\x7b\"@hasura/ndc-lambda-sdk\":\"1.0.0\"\x7d\x7d".toUTF8
      newFileMode),
    ("utils.ts", .file runtimeHelpers.toUTF8 0o200),
    ("configuration.schema.json", .file "\x7b\x7d".toUTF8 newFileMode),
    ("configuration.json", .file "\x7b\x7d".toUTF8 newFileMode)]

/-- The project with a link that leads to it from outside. -/
def hiddenFiles : FileSystem :=
  ⟨.directory [("home", .directory [("project", hiddenProject)]), ("work", .link "home/project")],
    []⟩

/-- There is no link in the project. -/
theorem isLinkFree_hiddenFiles : hiddenFiles.IsLinkFree "work" := by
  intro location hlocation below target hlink
  have hproject : hiddenFiles.resolve true (Path.join "work" ".") =
    .ok (.taken ["home", "project"]) := eq_ok_of_toOption (by decide +kernel)
  cases hproject.symm.trans hlocation
  have hunlinked : hiddenProject.IsUnlinked := by
    refine Node.isUnlinked_directory ?_
    simp [Node.isUnlinked_file]
  refine hunlinked below target ?_
  rw [← hlink, FileSystem.entryAt?, Node.entryAt?, Node.entryAt?, Node.at?_append]
  rfl

/-- The file that nobody may read holds exactly what is bundled. -/
theorem node_hiddenFiles : hiddenFiles.node true (Path.join "work" "utils.ts") =
    .ok (.file runtimeHelpers.toUTF8 0o200) := by
  have hresolve : hiddenFiles.resolve true (Path.join "work" "utils.ts") =
    .ok (.taken ["home", "project", "utils.ts"]) := eq_ok_of_toOption (by decide +kernel)
  exact node_eq_ok_iff.2 ⟨_, hresolve, rfl⟩

/-- The project is upgraded through the link, and the file that nobody may read is reported as
created, although it holds exactly what is bundled. -/
theorem upgrade_outcome_hiddenFiles : hiddenFiles.IsLinkFree "work" ∧
    hiddenFiles.node true (Path.join "work" "utils.ts") =
      .ok (.file runtimeHelpers.toUTF8 0o200) ∧
    ∃ report after, runIn ⟨hiddenFiles, []⟩ (upgrade "work") = (.ok report, after) ∧
      IsUpgraded hiddenFiles after.files "work" report ∧
      (Path.join "work" "utils.ts", .created) ∈ report.files := by
  have hversion : currentVersion hiddenFiles (Path.join "work" packageFile) = .ok "1.0.0" :=
    eq_ok_of_toOption (by decide +kernel)
  have hfiles : (runIn ⟨hiddenFiles, [] ++ [startEvent] ++ [versionEvent]⟩
      (upgradeFiles "work" scaffoldFiles)).1.toBool = true := by decide +kernel
  have hrun := runIn_upgrade hiddenFiles "work" []
  rw [hversion] at hrun
  dsimp only at hrun
  generalize runIn ⟨hiddenFiles, [] ++ [startEvent] ++ [versionEvent]⟩
    (upgradeFiles "work" scaffoldFiles) = outcome at hfiles hrun
  obtain ⟨_ | entries, after⟩ := outcome
  · exact nomatch hfiles
  · have hupgraded := ((upgrade_outcome isLinkFree_hiddenFiles []).2 _ _ hrun).1
    have hhidden : IsHidden hiddenFiles "work" "utils.ts" :=
      ⟨by decide, runtimeHelpers.toUTF8, 0o200, node_hiddenFiles, by decide⟩
    refine ⟨isLinkFree_hiddenFiles, node_hiddenFiles, _, _, hrun, hupgraded, ?_⟩
    obtain ⟨entry, rest, hfirst, -, hentries⟩ := List.forall₂_cons_left_iff.1 hupgraded.reports
    rw [hentries, hfirst.hidden hhidden]
    exact List.mem_cons_self

end Scaffold

end ProgramConnector
