import Mathlib.Logic.Relation
import ProgramConnector.Proofs.Files.LinkedPaths

/-!
# Changes of files

Making a directory at a free name, and writing a file at a free name or in place of a file, are the
changes that outputs consist of. What one change does to an entry is what any series of them does to
it: it stays, or a directory has been made where nothing was, or a file has been written. So a path
leads, after any number of changes, where it led before.
-/

namespace ProgramConnector.FileSystem

/-- One change of files. Directories are made at locations in `made`, and files are written at
locations in `written`. -/
inductive Change (made written : List String → Prop) (files : FileSystem) : FileSystem → Prop where
  /-- A directory is made where nothing is. -/
  | make {location : List String} (room : files.root.HasRoom location)
    (free : files.entryAt? location = none) (allowed : made location) :
    Change made written files (files.put location (.directory []))
  /-- A file is written. -/
  | write {location : List String} {content : ByteArray} {mode : Nat}
    (room : files.root.HasRoom location) (allowed : written location) :
    Change made written files (files.put location (.file content mode))

/-- A series of changes. -/
abbrev Changes (made written : List String → Prop) : FileSystem → FileSystem → Prop :=
  Relation.ReflTransGen (Change made written)

/-- What changes do to an entry, where directories are made only if `made` and files are written
only if `written`. -/
inductive Becomes (made written : Prop) : Option Entry → Option Entry → Prop where
  /-- It stays. -/
  | same {entry : Option Entry} : Becomes made written entry entry
  /-- A directory is made. -/
  | made (allowed : made) : Becomes made written none (some .directory)
  /-- A file is written where there was no directory. -/
  | written {entry : Option Entry} {content : ByteArray} {mode : Nat} (allowed : written)
    (old : entry ≠ some .directory) : Becomes made written entry (some (.file content mode))

/-- What is done to an entry in two steps can be done in one. -/
theorem Becomes.trans {made written : Prop} {entry next last : Option Entry}
    (h : Becomes made written entry next) (h' : Becomes made written next last) :
    Becomes made written entry last := by
  cases h' with
  | same => exact h
  | made allowed =>
    cases h with
    | same => exact .made allowed
  | written allowed old =>
    cases h with
    | same => exact .written allowed old
    | made _ => exact absurd rfl old
    | written _ first => exact .written allowed first

section Becomes

variable {made written : Prop} {entry next : Option Entry} {content : ByteArray} {mode : Nat}

/-- A directory stays a directory. -/
theorem Becomes.directory (h : Becomes made written (some .directory) next) :
    next = some .directory := by
  cases h with
  | same => rfl
  | written _ old => exact absurd rfl old

/-- A file stays a file. -/
theorem Becomes.file (h : Becomes made written (some (.file content mode)) next) :
    ∃ content mode, next = some (.file content mode) := by
  cases h with
  | same => exact ⟨content, mode, rfl⟩
  | written _ _ => exact ⟨_, _, rfl⟩

/-- What is there stays where no file is written. -/
theorem Becomes.stays {old : Entry} (h : Becomes made written (some old) next)
    (hw : ¬ written) : next = some old := by
  cases h with
  | same => rfl
  | written allowed _ => exact absurd allowed hw

/-- A directory was there, or has been made where nothing was. -/
theorem Becomes.of_directory (h : Becomes made written entry (some .directory)) :
    entry = some .directory ∨ entry = none := by
  cases h with
  | same => exact .inl rfl
  | made _ => exact .inr rfl

/-- A file was there where no file is written. -/
theorem Becomes.of_file (h : Becomes made written entry (some (.file content mode)))
    (hw : ¬ written) : entry = some (.file content mode) := by
  cases h with
  | same => rfl
  | written allowed _ => exact absurd allowed hw

/-- No link is made. -/
theorem Becomes.of_link {target : String} (h : Becomes made written entry (some (.link target))) :
    entry = some (.link target) := by
  cases h with
  | same => rfl

end Becomes

section Change

variable {made written : List String → Prop} {files later : FileSystem}

/-- A change leaves the working directory where it is. -/
theorem Change.current_eq (h : Change made written files later) :
    later.current = files.current := by
  cases h <;> rfl

/-- What one change does to an entry. -/
theorem Change.becomes (h : Change made written files later) (location : List String) :
    Becomes (made location) (written location) (files.entryAt? location)
      (later.entryAt? location) := by
  cases h with
  | @make changed room free allowed =>
    have hentry : (files.put changed (.directory [])).entryAt? location =
        if location = changed then some .directory else files.entryAt? location :=
      room.entryAt?_put rfl
    rw [hentry]
    split_ifs with heq
    · subst heq
      rw [free]
      exact .made allowed
    · exact .same
  | @write changed content mode room allowed =>
    have hentry : (files.put changed (.file content mode)).entryAt? location =
        if location = changed then some (.file content mode) else files.entryAt? location :=
      room.entryAt?_put rfl
    rw [hentry]
    split_ifs with heq
    · subst heq
      refine .written allowed fun hold => ?_
      obtain ⟨entries, hentries⟩ := Node.entryAt?_eq_directory_iff.1 hold
      exact absurd (room.bare _ hentries) Bool.false_ne_true
    · exact .same

/-- Changes stay changes where more locations are allowed. -/
theorem Changes.imp {made' written' : List String → Prop} (h : Changes made written files later)
    (hmade : ∀ location, made location → made' location)
    (hwritten : ∀ location, written location → written' location) :
    Changes made' written' files later := by
  refine Relation.ReflTransGen.mono (fun files later hchange => ?_) _ _ h
  cases hchange with
  | make room free allowed => exact .make room free (hmade _ allowed)
  | write room allowed => exact .write room (hwritten _ allowed)

/-- Changes leave the working directory where it is. -/
theorem Changes.current_eq (h : Changes made written files later) :
    later.current = files.current := by
  induction h with
  | refl => rfl
  | tail _ hstep ih => exact hstep.current_eq.trans ih

/-- What a series of changes does to an entry. -/
theorem Changes.becomes (h : Changes made written files later) (location : List String) :
    Becomes (made location) (written location) (files.entryAt? location)
      (later.entryAt? location) := by
  induction h with
  | refl => exact .same
  | tail _ hstep ih => exact ih.trans (hstep.becomes location)

/-- Directories stay directories and files stay files. -/
theorem Changes.persist (h : Changes made written files later) :
    Persist files.entryAt? later.entryAt? := by
  constructor
  · intro location hentry
    exact (hentry ▸ h.becomes location).directory
  · intro location content mode hentry
    exact (hentry ▸ h.becomes location).file

/-- An entry that is there stays as it is where no file is written. -/
theorem Changes.entryAt?_eq (h : Changes made written files later) {location : List String}
    {entry : Entry} (hentry : files.entryAt? location = some entry) (hw : ¬ written location) :
    later.entryAt? location = some entry :=
  (hentry ▸ h.becomes location).stays hw

/-- A file system without links stays one. -/
theorem Changes.isPlain (h : Changes made written files later) (hplain : files.IsPlain) :
    later.IsPlain := by
  constructor
  · intro location target hlink
    have hlater : later.entryAt? location = some (.link target) := hlink
    exact hplain.unlinked location target (hlater ▸ h.becomes location).of_link
  · rw [h.current_eq]
    exact h.persist.directory _ hplain.current

/-- A path denotes the same location. -/
theorem Changes.location_eq (h : Changes made written files later) (path : String) :
    later.location path = files.location path := by
  rw [location, location, h.current_eq]

/-- A path that leads to something still leads there. -/
theorem Changes.resolve_taken (h : Changes made written files later) (hplain : files.IsPlain)
    {follow : Bool} {path : String} {location : List String}
    (hpath : files.resolve follow path = .ok (.taken location)) (follow' : Bool) :
    later.resolve follow' path = .ok (.taken location) := by
  obtain ⟨hfault, hleads⟩ := hplain.resolve_eq_ok_iff.1 hpath
  refine (h.isPlain hplain).resolve_eq_ok_iff.2 ⟨hfault, ?_⟩
  rw [h.current_eq]
  exact hleads.persist h.persist

/-- A change leaves links alone: a directory has room for nothing in place of a link. -/
theorem Change.link (h : Change made written files later) {location : List String}
    {target : String} (hlink : files.entryAt? location = some (.link target)) :
    later.entryAt? location = some (.link target) := by
  have hput {changed : List String} {new : Node} (room : files.root.HasRoom changed)
      (hnew : new.entries = []) :
      (files.put changed new).entryAt? location = some (.link target) := by
    have hother : location ≠ changed := by
      rintro rfl
      exact absurd (room.bare _ (Node.entryAt?_eq_link_iff.1 hlink)) Bool.false_ne_true
    exact (room.entryAt?_put hnew).trans ((if_neg hother).trans hlink)
  cases h with
  | make room free allowed => exact hput room rfl
  | write room allowed => exact hput room rfl

/-- A link stays. -/
theorem Changes.link (h : Changes made written files later) {location : List String}
    {target : String} (hlink : files.entryAt? location = some (.link target)) :
    later.entryAt? location = some (.link target) := by
  induction h with
  | refl => exact hlink
  | tail _ hstep ih => exact hstep.link ih

/-- The working directory stays a directory. -/
theorem Changes.current (h : Changes made written files later)
    (hcurrent : files.entryAt? files.current = some .directory) :
    later.entryAt? later.current = some .directory := by
  rw [h.current_eq]
  exact h.persist.directory _ hcurrent

/-- A path that led to a place for a file leads to what has come to stand there, through whatever
links. -/
theorem Changes.resolve_filled (h : Changes made written files later)
    (hcurrent : files.entryAt? files.current = some .directory) {follow : Bool} {path : String}
    {place : Place} (hpath : files.resolve follow path = .ok place)
    (hplace : IsWritable files.entryAt? place) (hnew : later.entryAt? place.location ≠ none) :
    later.resolve true path = .ok (.taken place.location) := by
  obtain ⟨haccepted, hfinds⟩ := resolve_eq_ok_iff.1 hpath
  obtain ⟨hroom, -⟩ := hasRoom_of_resolve hcurrent hpath hplace
  refine resolve_eq_ok_iff.2 ⟨haccepted, ?_⟩
  rw [h.current_eq]
  refine hfinds.fill h.persist.directory (fun _ _ hlink => h.link hlink) hplace ?_
  cases hentry : later.entryAt? place.location with
  | none => exact absurd hentry hnew
  | some entry =>
    cases entry with
    | directory => exact .inl hentry
    | file content mode => exact .inr ⟨content, mode, hentry⟩
    | link target =>
      have hold := (hentry ▸ h.becomes place.location).of_link
      exact absurd (hroom.bare _ (Node.entryAt?_eq_link_iff.1 hold)) Bool.false_ne_true

end Change

end ProgramConnector.FileSystem
