import ProgramConnector.Files.FileSystem
import ProgramConnector.Proofs.Json.Values

/-!
# What stands at a location

An entry is what stands at a location, without what is below it. A file, or a directory without
entries, can be put where a directory has room for it: at a free name, or in place of a file. That
changes the entry at this location and at no other.
-/

namespace ProgramConnector

/-- What stands at a location, without what is below it. -/
inductive Entry where
  /-- A directory. -/
  | directory
  /-- A regular file with its content and its permission bits. -/
  | file (content : ByteArray) (mode : Nat)
  /-- A symbolic link with its target. -/
  | link (target : String)

namespace Node

/-- The entry of a node. -/
def entry : Node → Entry
  | .directory _ => .directory
  | .file content mode => .file content mode
  | .link target => .link target

/-- The entry at a location. -/
def entryAt? (root : Node) (location : List String) : Option Entry :=
  (root.at? location).map entry

/-- There is no link in a tree. -/
def IsUnlinked (root : Node) : Prop :=
  ∀ location target, root.entryAt? location ≠ some (.link target)

/-- A directory has room at a location: it is a name of a directory, and what stands there, if
anything, is a file. -/
structure HasRoom (root : Node) (location : List String) : Prop where
  /-- The location is a name of a directory. -/
  directory : ∃ above name entries, location = above ++ [name] ∧
    root.at? above = some (.directory entries)
  /-- Nothing but a file stands there. -/
  bare : ∀ node, root.at? location = some node → node.isFile = true

section Entries

variable {root new : Node} {location other : List String}

/-- The entry of a directory is that of no other node. -/
theorem entryAt?_eq_directory_iff : root.entryAt? location = some .directory ↔
    ∃ entries, root.at? location = some (.directory entries) := by
  unfold entryAt?
  cases root.at? location with
  | none => simp
  | some node => cases node <;> simp [entry]

/-- The entry of a file is the file. -/
theorem entryAt?_eq_file_iff {content : ByteArray} {mode : Nat} :
    root.entryAt? location = some (.file content mode) ↔
      root.at? location = some (.file content mode) := by
  unfold entryAt?
  cases root.at? location with
  | none => simp
  | some node => cases node <;> simp [entry]

/-- The entry of a link is the link. -/
theorem entryAt?_eq_link_iff {target : String} :
    root.entryAt? location = some (.link target) ↔ root.at? location = some (.link target) := by
  unfold entryAt?
  cases root.at? location with
  | none => simp
  | some node => cases node <;> simp [entry]

/-- There is an entry where there is a node. -/
theorem entryAt?_eq_none_iff : root.entryAt? location = none ↔ root.at? location = none :=
  Option.map_eq_none_iff

/-- A file is no link. -/
theorem isUnlinked_file (content : ByteArray) (mode : Nat) :
    (Node.file content mode).IsUnlinked := by
  intro location target h
  cases location with
  | nil => exact nomatch h
  | cons name rest => exact nomatch h

/-- A directory of trees without links is one. -/
theorem isUnlinked_directory {entries : List (String × Node)}
    (h : ∀ entry ∈ entries, entry.2.IsUnlinked) : (Node.directory entries).IsUnlinked := by
  intro location target hlink
  cases location with
  | nil => exact nomatch hlink
  | cons name rest =>
    obtain ⟨node, hnode, hentry⟩ := Option.map_eq_some_iff.1 hlink
    obtain ⟨child, hchild, hrest⟩ := Option.bind_eq_some_iff.1 hnode
    have hbelow : child.entryAt? rest = some (.link target) :=
      Option.map_eq_some_iff.2 ⟨node, hrest, hentry⟩
    exact h _ (Members.mem_of_find? hchild) rest target hbelow

/-- What is below something that has no entries is nothing. -/
theorem at?_cons_of_entries_nil {node : Node} (h : node.entries = []) (name : String)
    (rest : List String) : node.at? (name :: rest) = none := by
  cases node with
  | directory entries =>
    cases h
    rfl
  | file content mode => rfl
  | link target => rfl

/-- A file has no entries. -/
theorem entries_of_isFile {node : Node} (h : node.isFile = true) : node.entries = [] := by
  cases node with
  | directory entries => exact absurd h Bool.false_ne_true
  | file content mode => rfl
  | link target => rfl

/-- Above something that is there, everything is a directory. -/
theorem at?_of_append {above : List String} {name : String} {rest : List String} {node : Node}
    (h : root.at? (above ++ name :: rest) = some node) :
    ∃ entries, root.at? above = some (.directory entries) := by
  rw [at?_append] at h
  cases habove : root.at? above with
  | none => simp [habove] at h
  | some node =>
    cases node with
    | directory entries => exact ⟨entries, rfl⟩
    | file content mode => simp [habove, at?] at h
    | link target => simp [habove, at?] at h

/-- Something put below a location is put into what stands there. -/
theorem at?_put_above {above rest : List String} {child : Node} (h : root.at? above = some child) :
    (put new (above ++ rest) root).at? above = some (put new rest child) := by
  induction above generalizing root with
  | nil =>
    cases h
    rfl
  | cons step above ih =>
    cases root with
    | directory inner =>
      obtain ⟨next, hnext, habove⟩ := Option.bind_eq_some_iff.1 h
      simp only [List.cons_append, put, at?, Members.find?_put_self, hnext, Option.getD_some,
        Option.bind_some]
      exact ih habove
    | file content mode => simp [at?] at h
    | link target => simp [at?] at h

/-- Something put at a name of a directory changes nothing at locations that are neither above nor
below that name. -/
theorem at?_put_apart {above : List String} {name : String} {entries : List (String × Node)}
    (h : root.at? above = some (.directory entries)) (hbelow : ¬ above ++ [name] <+: other)
    (habove : ¬ other <+: above ++ [name]) :
    (put new (above ++ [name]) root).at? other = root.at? other := by
  induction above generalizing root other with
  | nil =>
    cases h
    cases other with
    | nil => exact absurd (List.nil_prefix) habove
    | cons first rest =>
      have hne : first ≠ name := by
        rintro rfl
        exact hbelow ⟨rest, rfl⟩
      simp only [List.nil_append, put, at?, Members.find?_put_of_ne hne]
  | cons step above ih =>
    cases root with
    | directory inner =>
      obtain ⟨child, hchild, hrest⟩ := Option.bind_eq_some_iff.1 h
      cases other with
      | nil => exact absurd (List.nil_prefix) habove
      | cons first rest =>
        simp only [List.cons_append, put, at?]
        by_cases hfirst : first = step
        · subst hfirst
          have hinner : ¬ above ++ [name] <+: rest := fun hp =>
            hbelow (List.cons_prefix_cons.2 ⟨rfl, hp⟩)
          have houter : ¬ rest <+: above ++ [name] := fun hp =>
            habove (List.cons_prefix_cons.2 ⟨rfl, hp⟩)
          rw [Members.find?_put_self, hchild]
          exact ih hrest hinner houter
        · rw [Members.find?_put_of_ne hfirst]
    | file content mode => simp [at?] at h
    | link target => simp [at?] at h

/-- Something put at a name of a directory changes no entry apart from those at and below that
name. -/
theorem entryAt?_put_of_not_prefix {above : List String} {name : String}
    {entries : List (String × Node)} (h : root.at? above = some (.directory entries))
    (hother : ¬ above ++ [name] <+: other) :
    (put new (above ++ [name]) root).entryAt? other = root.entryAt? other := by
  by_cases hprefix : other <+: above ++ [name]
  · -- A directory on the way to the name stays a directory.
    obtain ⟨rest, hrest⟩ := hprefix
    cases rest with
    | nil =>
      rw [List.append_nil] at hrest
      exact absurd (hrest ▸ List.prefix_refl _) hother
    | cons step rest =>
      have habove : other <+: above := by
        rcases List.prefix_concat_iff.1 ⟨step :: rest, hrest⟩ with heq | hp
        · exact absurd (heq ▸ List.prefix_refl _) hother
        · exact hp
      obtain ⟨inner, hinner⟩ : ∃ inner, root.at? other = some (.directory inner) := by
        obtain ⟨_ | ⟨next, more⟩, rfl⟩ := habove
        · rw [List.append_nil] at h
          exact ⟨entries, h⟩
        · exact at?_of_append h
      rw [← hrest, entryAt?, entryAt?, at?_put_above hinner, hinner]
      rfl
  · rw [entryAt?, entryAt?, at?_put_apart h hother hprefix]

/-- Something without entries, put where a directory has room for it, changes the entry there and no
other one. -/
theorem HasRoom.entryAt?_put (h : root.HasRoom location) (hnew : new.entries = []) :
    (put new location root).entryAt? other =
      if other = location then some new.entry else root.entryAt? other := by
  obtain ⟨above, name, entries, rfl, habove⟩ := h.directory
  by_cases hother : above ++ [name] <+: other
  · obtain ⟨rest, rfl⟩ := hother
    have hput := at?_put_self new root above name habove
    cases rest with
    | nil => simp [entryAt?, hput]
    | cons first rest =>
      have hbelow : root.at? (above ++ [name] ++ first :: rest) = none := by
        rw [at?_append]
        cases hold : root.at? (above ++ [name]) with
        | none => rfl
        | some node =>
          exact at?_cons_of_entries_nil (entries_of_isFile (h.bare node hold)) first rest
      rw [if_neg (by simp), entryAt?, entryAt?, hbelow, at?_append, hput, Option.bind_some,
        at?_cons_of_entries_nil hnew]
  · have hne : other ≠ above ++ [name] := by
      rintro rfl
      exact hother (List.prefix_refl _)
    rw [if_neg hne]
    exact entryAt?_put_of_not_prefix habove hother

/-- What stands at a location is put there again without a change. -/
theorem put_of_at? (h : root.at? location = some new) : put new location root = root := by
  induction location generalizing root with
  | nil =>
    cases h
    rfl
  | cons step rest ih =>
    cases root with
    | directory inner =>
      obtain ⟨child, hchild, hrest⟩ := Option.bind_eq_some_iff.1 h
      rw [put, hchild, Option.getD_some, ih hrest, Members.put_of_find? hchild]
    | file content mode => simp [at?] at h
    | link target => simp [at?] at h

end Entries

end Node

end ProgramConnector
