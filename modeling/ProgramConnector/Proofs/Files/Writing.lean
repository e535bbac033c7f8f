import ProgramConnector.Proofs.Files.Changes
import ProgramConnector.Proofs.Files.LinkedPaths
import ProgramConnector.Proofs.Files.Paths
import ProgramConnector.Proofs.Results

/-!
# Making directories and writing files

Making a directory, writing a file and setting its permission bits are changes at the place that a
path leads to, and after them the path leads to what was made. Where there is no link, this is the
location that the path denotes. A directory that is there is not made again, and a file that has its
content is not changed when the same content is written. What is read is the content of a file that
lets its owner read it.
-/

namespace ProgramConnector.FileSystem

/-- The path of the directory that a file is in, if the path of the file names one. -/
def parentPath? (path : String) : Option String :=
  (Path.parent? path).filter fun parent => !parent.isEmpty

/-- The paths of the directories that are made before a file is written, nearest first. -/
def pathsAbove (path : String) : List String :=
  match parentPath? path with
  | some parent => pathsUpward parent.length parent
  | none => []

/-- The directory of a file is there, if its path names one. -/
def HasParent (files : FileSystem) (path : String) : Prop :=
  ∀ parent, parentPath? path = some parent → files.isDirectory parent = true

/-- A file holds a text, with these permission bits. -/
structure Holds (files : FileSystem) (path text : String) (mode : Nat) : Prop where
  /-- The directory of the file is there. -/
  parent : files.HasParent path
  /-- The path does not end like that of a directory. -/
  noSlash : endsWithSlash path = false
  /-- The path leads to the file. -/
  node : files.node true path = .ok (.file text.toUTF8 mode)

variable {files later : FileSystem} {made written : List String → Prop} {path : String}

/-- A path leads to a node when it leads to the location of the node. -/
theorem node_eq_ok_iff {follow : Bool} {node : Node} : files.node follow path = .ok node ↔
    ∃ location, files.resolve follow path = .ok (.taken location) ∧
      files.root.at? location = some node := by
  unfold FileSystem.node
  cases files.resolve follow path with
  | error fault => simp [bind, Except.bind]
  | ok place =>
    cases place with
    | free location slash =>
      simp [bind, Except.bind, throw, throwThe, MonadExceptOf.throw]
    | taken location =>
      cases hnode : files.root.at? location with
      | none => simp [bind, Except.bind, hnode, throw, throwThe, MonadExceptOf.throw]
      | some found => simp [bind, Except.bind, hnode, pure, Except.pure]

/-- There is something at a path when it leads to a node. -/
theorem holds_iff_exists_node : files.holds path = true ↔ ∃ node, files.node true path = .ok node := by
  unfold holds
  cases files.node true path <;> simp [Except.toBool]

/-- Where a path leads to a node, there is something. -/
theorem holds_of_node {node : Node} (h : files.node true path = .ok node) :
    files.holds path = true :=
  holds_iff_exists_node.2 ⟨node, h⟩

/-- The content of a file is read if the file lets its owner read it. -/
theorem read_of_node {content : ByteArray} {mode : Nat}
    (h : files.node true path = .ok (.file content mode)) :
    files.read path = if mayRead mode then .ok content else .error .permissionDenied := by
  unfold FileSystem.read
  rw [h]
  rfl

/-- What is read is the content of a file that lets its owner read it. -/
theorem read_eq_ok_iff {content : ByteArray} : files.read path = .ok content ↔
    ∃ mode, files.node true path = .ok (.file content mode) ∧ mayRead mode = true := by
  constructor
  · intro h
    obtain ⟨node, hnode, hcontent⟩ := bind_eq_ok h
    cases node with
    | directory entries => exact nomatch hcontent
    | link target => exact nomatch hcontent
    | file found mode =>
      rw [read_of_node hnode] at h
      split_ifs at h with hmode
      cases h
      exact ⟨mode, hnode, hmode⟩
  · rintro ⟨mode, hnode, hmode⟩
    rw [read_of_node hnode, if_pos hmode]

/-- A path is that of a directory when it leads to the entry of one. -/
theorem isDirectory_iff : files.isDirectory path = true ↔
    ∃ location, files.resolve true path = .ok (.taken location) ∧
      files.entryAt? location = some .directory := by
  unfold isDirectory
  constructor
  · intro h
    cases hnode : files.node true path with
    | error fault =>
      rw [hnode] at h
      exact nomatch h
    | ok node =>
      obtain ⟨location, hresolve, hfound⟩ := node_eq_ok_iff.1 hnode
      rw [hnode] at h
      cases node with
      | directory entries =>
        exact ⟨location, hresolve, Node.entryAt?_eq_directory_iff.2 ⟨entries, hfound⟩⟩
      | file content mode => exact nomatch h
      | link target => exact nomatch h
  · rintro ⟨location, hresolve, hentry⟩
    obtain ⟨entries, hfound⟩ := Node.entryAt?_eq_directory_iff.1 hentry
    rw [node_eq_ok_iff.2 ⟨location, hresolve, hfound⟩]
    rfl

/-- A directory stays one. -/
theorem Changes.isDirectory (h : Changes made written files later) (hplain : files.IsPlain)
    (hpath : files.isDirectory path = true) : later.isDirectory path = true := by
  obtain ⟨location, hresolve, hentry⟩ := isDirectory_iff.1 hpath
  exact isDirectory_iff.2 ⟨location, h.resolve_taken hplain hresolve true,
    h.persist.directory location hentry⟩

/-- Where something without entries is put at the place of a path, the path leads to it. -/
theorem resolve_put (hcurrent : files.entryAt? files.current = some .directory) {follow : Bool}
    {place : Place} {new : Node} (hnew : new.entries = [])
    (hplace : files.resolve follow path = .ok place) (hwritable : IsWritable files.entryAt? place)
    (hchange : Change made written files (files.put place.location new)) :
    (files.put place.location new).entryAt? place.location = some new.entry ∧
      (files.put place.location new).resolve true path = .ok (.taken place.location) := by
  have hchanges : Changes made written files (files.put place.location new) := .single hchange
  obtain ⟨hroom, -⟩ := hasRoom_of_resolve hcurrent hplace hwritable
  have hentry : (files.put place.location new).entryAt? place.location = some new.entry := by
    rw [FileSystem.entryAt?, put, hroom.entryAt?_put hnew, if_pos rfl]
  exact ⟨hentry, hchanges.resolve_filled hcurrent hplace hwritable
    (hentry ▸ Option.some_ne_none new.entry)⟩

section Directories

/-- A directory that is made is put at a free name. -/
theorem makeDirectory_eq_ok (h : files.makeDirectory path = .ok later) :
    ∃ location, files.resolve false (withoutEndSlashes path) = .ok (.free location false) ∧
      later = files.put location (.directory []) := by
  unfold FileSystem.makeDirectory at h
  obtain ⟨place, hplace, h⟩ := bind_eq_ok h
  match place, hplace, h with
  | .free location false, hplace, h =>
    cases h
    exact ⟨location, hplace, rfl⟩

/-- Making a directory is a change where it is allowed, and the directory is there afterwards. -/
theorem change_of_makeDirectory (hcurrent : files.entryAt? files.current = some .directory)
    (hclean : withoutEndSlashes path = path)
    (hallowed : ∀ location, files.resolve false path = .ok (.free location false) → made location)
    (h : files.makeDirectory path = .ok later) :
    Change made written files later ∧ later.isDirectory path = true := by
  obtain ⟨location, hplace, rfl⟩ := makeDirectory_eq_ok h
  rw [hclean] at hplace
  obtain ⟨hroom, -⟩ := hasRoom_of_resolve hcurrent hplace rfl
  have hfree := (resolve_eq_ok_iff.1 hplace).2.free_eq_none
  have hchange : Change made written files (files.put location (.directory [])) :=
    .make hroom hfree (hallowed location hplace)
  obtain ⟨hentry, hresolve⟩ := resolve_put hcurrent rfl hplace rfl hchange
  exact ⟨hchange, isDirectory_iff.2 ⟨location, hresolve, hentry⟩⟩

/-- A directory that is there is not made again. -/
theorem makeDirectory_of_isDirectory (hclean : withoutEndSlashes path = path)
    (hpath : files.isDirectory path = true) :
    files.makeDirectory path = .error .alreadyExists := by
  obtain ⟨location, hresolve, -⟩ := isDirectory_iff.1 hpath
  obtain ⟨other, htaken, -⟩ := exists_taken_of_resolve hresolve
  unfold FileSystem.makeDirectory
  rw [hclean, htaken]
  rfl

/-- Making a directory with those above it is a series of changes where each of them is allowed, and
the directory is there afterwards. -/
theorem changes_makeDirectoryChain (hcurrent : files.entryAt? files.current = some .directory)
    {paths : List String} (hclean : ∀ path ∈ paths, withoutEndSlashes path = path)
    (hallowed : ∀ path ∈ paths, ∀ later location, Changes made written files later →
      later.resolve false path = .ok (.free location false) → made location) :
    Changes made written files (makeDirectoryChain paths files).1 ∧
    ∀ path, paths.head? = some path → (makeDirectoryChain paths files).2 = .ok () →
      (makeDirectoryChain paths files).1.isDirectory path = true := by
  induction paths with
  | nil => exact ⟨.refl, fun _ hhead => nomatch hhead⟩
  | cons path above ih =>
    obtain ⟨hpath, habove⟩ := List.forall_mem_cons.1 hclean
    obtain ⟨hallowedPath, hallowedAbove⟩ := List.forall_mem_cons.1 hallowed
    simp only [List.head?_cons, Option.some.injEq, forall_eq']
    have hthere (fault : OsError) (files : FileSystem)
        (hok : (if files.isDirectory path then Except.ok () else .error fault) = .ok ()) :
        files.isDirectory path = true := by
      by_contra hnot
      rw [if_neg hnot] at hok
      exact nomatch hok
    have hmake {before after : FileSystem} (hbefore : Changes made written files before)
        (hmade : before.makeDirectory path = .ok after) :
        Changes made written files after ∧ after.isDirectory path = true := by
      obtain ⟨hchange, hdirectory⟩ : Change made written before after ∧
        after.isDirectory path = true :=
          change_of_makeDirectory (hbefore.current hcurrent) hpath
            (fun location => hallowedPath before location hbefore) hmade
      exact ⟨hbefore.tail hchange, hdirectory⟩
    unfold FileSystem.makeDirectoryChain
    split
    · rename_i later hmade
      obtain ⟨hchanges, hdirectory⟩ := hmake .refl hmade
      exact ⟨hchanges, fun _ => hdirectory⟩
    · obtain ⟨hchanges, -⟩ := ih habove hallowedAbove
      split
      · rename_i under fault hunder
        rw [hunder] at hchanges
        exact ⟨hchanges, fun hok => nomatch hok⟩
      · rename_i under hunder
        rw [hunder] at hchanges
        split
        · rename_i later hmade
          obtain ⟨hmore, hdirectory⟩ := hmake hchanges hmade
          exact ⟨hmore, fun _ => hdirectory⟩
        · exact ⟨hchanges, hthere _ _⟩
    · exact ⟨.refl, hthere _ _⟩

/-- The paths above a path without a slash at its end have none either. -/
theorem withoutEndSlashes_of_mem_pathsUpward {bound : Nat}
    (hpath : path = "/" ∨ path.toList.getLast? ≠ some '/') :
    ∀ above ∈ pathsUpward bound path, withoutEndSlashes above = above := by
  induction bound generalizing path with
  | zero => exact fun _ habove => nomatch habove
  | succ bound ih =>
    unfold pathsUpward
    have hclean := Path.withoutEndSlashes_of_getLast? hpath
    split
    · exact fun _ habove => nomatch habove
    · split
      · rename_i parent hparent
        exact List.forall_mem_cons.2 ⟨hclean, ih (Path.getLast?_parent? hparent)⟩
      · exact List.forall_mem_singleton.2 hclean

/-- The paths of the directories of a file start with the nearest one. -/
theorem pathsUpward_eq_cons {parent : String} (hparent : parent.isEmpty = false) :
    ∃ above, pathsUpward parent.length parent = parent :: above := by
  cases hlength : parent.length with
  | zero =>
    have hempty : parent = "" := by simpa using hlength
    rw [hempty] at hparent
    exact nomatch hparent
  | succ bound =>
    unfold pathsUpward
    rw [hparent]
    cases Path.parent? parent with
    | none => exact ⟨[], rfl⟩
    | some above => exact ⟨pathsUpward bound above, rfl⟩

variable {parent : String}

/-- The parent of a file comes first among the paths above the file, and all of them are without
slashes at their ends. -/
theorem pathsAbove_spec (h : parentPath? path = some parent) :
    pathsAbove path = pathsUpward parent.length parent ∧
      (pathsAbove path).head? = some parent ∧
      ∀ above ∈ pathsAbove path, withoutEndSlashes above = above := by
  obtain ⟨hparent, hnonempty⟩ := Option.filter_eq_some_iff.1 h
  have hpaths : pathsAbove path = pathsUpward parent.length parent := by
    unfold pathsAbove
    rw [h]
  obtain ⟨above, habove⟩ := pathsUpward_eq_cons (by simpa using hnonempty)
  refine ⟨hpaths, by rw [hpaths, habove]; rfl, ?_⟩
  rw [hpaths]
  exact withoutEndSlashes_of_mem_pathsUpward (Path.getLast?_parent? hparent)

/-- Making the directories of a file is a series of changes where each of them is allowed, and the
parent of the file is there afterwards. -/
theorem changes_makeDirectories (hcurrent : files.entryAt? files.current = some .directory)
    (hparent : parentPath? path = some parent)
    (hallowed : ∀ above ∈ pathsAbove path, ∀ later location, Changes made written files later →
      later.resolve false above = .ok (.free location false) → made location) :
    Changes made written files (files.makeDirectories parent).1 ∧
      ((files.makeDirectories parent).2 = .ok () →
        (files.makeDirectories parent).1.isDirectory parent = true) := by
  obtain ⟨hpaths, hhead, hclean⟩ := pathsAbove_spec hparent
  obtain ⟨hchanges, hdirectory⟩ : Changes made written files
      (FileSystem.makeDirectoryChain (pathsAbove path) files).1 ∧ _ :=
    changes_makeDirectoryChain hcurrent hclean hallowed
  unfold FileSystem.makeDirectories
  rw [← hpaths]
  exact ⟨hchanges, hdirectory parent hhead⟩

/-- Where there is no link, making the directories of a file makes directories above it only. -/
theorem IsPlain.makeDirectories (h : files.IsPlain) (hparent : parentPath? path = some parent)
    (hallowed : ∀ above ∈ pathsAbove path, made (files.location above)) :
    Changes made written files (files.makeDirectories parent).1 ∧
      ((files.makeDirectories parent).2 = .ok () →
        (files.makeDirectories parent).1.isDirectory parent = true) := by
  refine changes_makeDirectories h.current hparent ?_
  intro above habove later location hchanges hfree
  have hlocation : location = later.location above := (hchanges.isPlain h).location_eq hfree
  rw [hlocation, hchanges.location_eq]
  exact hallowed above habove

/-- Where the parent of a file is there, nothing is made. -/
theorem makeDirectories_of_isDirectory (hparent : parentPath? path = some parent)
    (hdirectory : files.isDirectory parent = true) :
    files.makeDirectories parent = (files, .ok ()) := by
  obtain ⟨hpaths, hhead, hclean⟩ := pathsAbove_spec hparent
  unfold FileSystem.makeDirectories
  rw [← hpaths]
  cases habove : pathsAbove path with
  | nil =>
    rw [habove] at hhead
    exact nomatch hhead
  | cons first above =>
    rw [habove] at hhead hclean
    cases hhead
    have hthere := makeDirectory_of_isDirectory (hclean _ List.mem_cons_self) hdirectory
    unfold FileSystem.makeDirectoryChain
    simp only [hthere, hdirectory, if_true]

end Directories

section Files

/-- A file put where a path leads is a change, and the path leads to it afterwards. -/
theorem put_file (hcurrent : files.entryAt? files.current = some .directory) {place : Place}
    (content : ByteArray) (mode : Nat) (hplace : files.resolve true path = .ok place)
    (hwritable : IsWritable files.entryAt? place) (hallowed : written place.location) :
    Change made written files (files.put place.location (.file content mode)) ∧
      (files.put place.location (.file content mode)).resolve true path =
        .ok (.taken place.location) ∧
      (files.put place.location (.file content mode)).entryAt? place.location =
        some (.file content mode) := by
  obtain ⟨hroom, -⟩ := hasRoom_of_resolve hcurrent hplace hwritable
  have hchange : Change made written files (files.put place.location (.file content mode)) :=
    .write hroom hallowed
  obtain ⟨hentry, hresolve⟩ := resolve_put hcurrent rfl hplace hwritable hchange
  exact ⟨hchange, hresolve, hentry⟩

/-- A file that is written has a place that it can be written to, and is put there. -/
theorem write_eq_ok {content : ByteArray} (h : files.write path content = .ok later) :
    endsWithSlash path = false ∧ ∃ place mode, files.resolve true path = .ok place ∧
      IsWritable files.entryAt? place ∧ later = files.put place.location (.file content mode) := by
  unfold FileSystem.write at h
  split at h
  · obtain ⟨_, -, hnot⟩ := bind_eq_ok h
    exact nomatch hnot
  · rename_i hslash
    obtain ⟨place, hplace, h⟩ := bind_eq_ok h
    refine ⟨by simpa using hslash, place, ?_⟩
    split at h
    · exact nomatch h
    · cases h
      exact ⟨_, hplace, rfl, rfl⟩
    · split at h
      · rename_i hfound
        split at h
        · cases h
          exact ⟨_, hplace, ⟨_, _, Node.entryAt?_eq_file_iff.2 hfound⟩, rfl⟩
        · exact nomatch h
      · exact nomatch h

/-- A file whose permission bits are set is put where it is. -/
theorem setMode_eq_ok {content : ByteArray} {old mode : Nat} {location : List String}
    (hresolve : files.resolve true path = .ok (.taken location))
    (hfile : files.entryAt? location = some (.file content old))
    (h : files.setMode path mode = .ok later) :
    later = files.put location (.file content mode) := by
  unfold FileSystem.setMode at h
  simp only [hresolve, Node.entryAt?_eq_file_iff.1 hfile, bind, Except.bind] at h
  cases h
  rfl

/-- Writing a file is a change at its location, and the path leads to it afterwards. -/
theorem IsPlain.write (h : files.IsPlain) {content : ByteArray}
    (hallowed : written (files.location path)) (hwritten : files.write path content = .ok later) :
    Change made written files later ∧ endsWithSlash path = false ∧
      ∃ mode, later.node true path = .ok (.file content mode) := by
  obtain ⟨hslash, place, mode, hplace, hwritable, rfl⟩ := write_eq_ok hwritten
  rw [← h.location_eq hplace] at hallowed
  obtain ⟨hchange, hresolve, hentry⟩ := put_file h.current content mode hplace hwritable hallowed
  exact ⟨hchange, hslash, mode,
    node_eq_ok_iff.2 ⟨_, hresolve, Node.entryAt?_eq_file_iff.1 hentry⟩⟩

/-- Setting the permission bits of a file is a change at its location, and the path leads to the
file with these bits afterwards. -/
theorem IsPlain.setMode (h : files.IsPlain) {content : ByteArray} {old mode : Nat}
    (hallowed : written (files.location path))
    (hold : files.node true path = .ok (.file content old))
    (hset : files.setMode path mode = .ok later) :
    Change made written files later ∧ later.node true path = .ok (.file content mode) := by
  obtain ⟨location, hplace, hfound⟩ := node_eq_ok_iff.1 hold
  have hfile := Node.entryAt?_eq_file_iff.2 hfound
  rw [← h.location_eq hplace] at hallowed
  obtain ⟨hchange, hresolve, hentry⟩ :=
    put_file h.current content mode hplace ⟨_, _, hfile⟩ hallowed
  rw [setMode_eq_ok hplace hfile hset]
  exact ⟨hchange, node_eq_ok_iff.2 ⟨_, hresolve, Node.entryAt?_eq_file_iff.1 hentry⟩⟩

/-- A path that leads to a file denotes the location of the file, in a directory, and ends with its
name. -/
theorem IsPlain.location_of_file (h : files.IsPlain) {content : ByteArray} {mode : Nat}
    (hnode : files.node true path = .ok (.file content mode)) :
    files.resolve true path = .ok (.taken (files.location path)) ∧
      files.entryAt? (files.location path) = some (.file content mode) ∧
      ∃ above name, files.location path = above ++ [name] ∧
        Path.fileName? path = some name.toList ∧ name.toList <:+ path.toList := by
  obtain ⟨location, hresolve, hfound⟩ := node_eq_ok_iff.1 hnode
  have hentry : files.entryAt? location = some (.file content mode) :=
    Node.entryAt?_eq_file_iff.2 hfound
  have hlocation : location = files.location path := h.location_eq hresolve
  obtain ⟨-, front, name, hsteps, hname⟩ :=
    hasRoom_of_resolve h.current hresolve ⟨content, mode, hentry⟩
  subst hlocation
  refine ⟨hresolve, hentry, locate (startOf files.current path) front, name, ?_,
    Path.fileName?_of_steps hsteps hname⟩
  rw [FileSystem.location, hsteps, hname.locate_append]

end Files

section Puts

variable {content : ByteArray} {mode : Nat} {location : List String}

/-- A file is put at the location that its path leads to, through whatever links, and nothing else
is changed but that directories are made. -/
structure Puts (files later : FileSystem) (path : String) (content : ByteArray) (mode : Nat)
    (location : List String) : Prop where
  /-- The changes. -/
  changes : Changes (fun _ => True) (fun other => other = location) files later
  /-- The path leads to the location. -/
  leads : later.resolve true path = .ok (.taken location)
  /-- The file is there. -/
  file : later.entryAt? location = some (.file content mode)

/-- A file that is written is put where its path leads. -/
theorem exists_puts_of_write (hcurrent : files.entryAt? files.current = some .directory)
    (h : files.write path content = .ok later) :
    ∃ location mode, Puts files later path content mode location := by
  obtain ⟨-, place, mode, hplace, hwritable, rfl⟩ := write_eq_ok h
  obtain ⟨hchange, hleads, hfile⟩ : Change _ (fun other => other = place.location) files _ ∧ _ :=
    put_file hcurrent content mode hplace hwritable rfl
  exact ⟨place.location, mode, .single hchange, hleads, hfile⟩

/-- Setting the permission bits of a file puts it again with these. -/
theorem Puts.setMode {middle : FileSystem} {old : Nat}
    (h : Puts files middle path content old location)
    (hcurrent : files.entryAt? files.current = some .directory)
    (hset : middle.setMode path mode = .ok later) :
    Puts files later path content mode location := by
  have hmiddle := h.changes.current hcurrent
  obtain ⟨hchange, hleads, hfile⟩ : Change _ (fun other => other = location) middle _ ∧ _ :=
    put_file hmiddle content mode h.leads ⟨content, old, h.file⟩ rfl
  rw [setMode_eq_ok h.leads h.file hset]
  exact ⟨h.changes.tail hchange, hleads, hfile⟩

/-- A file that has been put stays where its path leads while other files are written. -/
theorem Puts.resolve_later (h : Puts files later path content mode location)
    (hcurrent : files.entryAt? files.current = some .directory) {last : FileSystem}
    (hchanges : Changes made written later last) :
    last.resolve true path = .ok (.taken location) := by
  obtain ⟨_, _, hfile⟩ := hchanges.persist.file _ _ _ h.file
  exact hchanges.resolve_filled (h.changes.current hcurrent) h.leads ⟨content, mode, h.file⟩
    (hfile ▸ Option.some_ne_none _)

end Puts

section Holds

variable {text : String} {mode : Nat}

/-- A file keeps its text while it is not written. -/
theorem Changes.holds (h : Changes made written files later) (hplain : files.IsPlain)
    (hfile : files.Holds path text mode) (hw : ¬ written (files.location path)) :
    later.Holds path text mode := by
  refine ⟨fun parent hparent => h.isDirectory hplain (hfile.parent parent hparent),
    hfile.noSlash, ?_⟩
  obtain ⟨location, hresolve, hfound⟩ := node_eq_ok_iff.1 hfile.node
  have hlocation : location = files.location path := hplain.location_eq hresolve
  have hentry := h.entryAt?_eq (Node.entryAt?_eq_file_iff.2 hfound) (hlocation ▸ hw)
  exact node_eq_ok_iff.2
    ⟨location, h.resolve_taken hplain hresolve true, Node.entryAt?_eq_file_iff.1 hentry⟩

/-- What stands at a location is put there again without a change. -/
theorem put_of_at? {location : List String} {node : Node}
    (h : files.root.at? location = some node) : files.put location node = files := by
  rw [put, Node.put_of_at? h]

/-- A text that a file holds is written again without a change, if the file lets its owner write
it. -/
theorem Holds.write (h : files.Holds path text mode) (hmode : mayWrite mode = true) :
    files.write path text.toUTF8 = .ok files := by
  obtain ⟨location, hresolve, hfound⟩ := node_eq_ok_iff.1 h.node
  unfold FileSystem.write
  rw [h.noSlash, hresolve]
  simp only [Bool.false_eq_true, if_false, bind, Except.bind, hfound, hmode, if_true,
    put_of_at? hfound]
  rfl

/-- Permission bits that a file has are set again without a change. -/
theorem Holds.setMode (h : files.Holds path text mode) :
    files.setMode path mode = .ok files := by
  obtain ⟨location, hresolve, hfound⟩ := node_eq_ok_iff.1 h.node
  unfold FileSystem.setMode
  simp only [hresolve, hfound, bind, Except.bind, put_of_at? hfound]
  rfl

end Holds

end ProgramConnector.FileSystem
