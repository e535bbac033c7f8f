import ProgramConnector.Proofs.Files.Writing

/-!
# Files of a directory

The files that stand directly in a directory, taken from it by their names. The path of the
directory may go through links. Where no link stands at the name itself, the path of the file leads
to the name at the location of the directory, what is read there is decided by the entry, and
writing another file of the directory leaves all this as it is.
-/

namespace ProgramConnector

namespace FileSystem

/-- The steps of a path that lead somewhere. -/
def leadingSteps (path : String) : List String := (Path.heldPieces path.toList).map String.ofList

/-- A name that a file of a directory can have. -/
structure IsFileName (name : String) : Prop extends IsName name where
  /-- There is something. -/
  nonempty : name ≠ ""
  /-- There is no slash. -/
  noSlash : '/' ∉ name.toList

/-- There is no link in a directory, nor below it. -/
def IsLinkFree (files : FileSystem) (directory : String) : Prop :=
  ∀ location, files.resolve true (Path.join directory ".") = .ok (.taken location) →
    ∀ below target, files.entryAt? (location ++ below) ≠ some (.link target)

/-- A name of a directory, which is at a location and has no link at the name. -/
structure HasSlot (files : FileSystem) (directory name : String) (location : List String) :
    Prop where
  /-- The steps of the directory arrive at the location. -/
  arrives : ∃ left, Arrives files.root linkLimit (startOf files.current directory)
    (leadingSteps directory) left location
  /-- The directory is there. -/
  above : files.entryAt? location = some .directory
  /-- The name is that of a file. -/
  fileName : IsFileName name
  /-- The path of the file can be given to a system call. -/
  accepted : pathFault? (Path.join directory name) = none
  /-- There is no link at the name. -/
  unlinked : ∀ target, files.entryAt? (location ++ [name]) ≠ some (.link target)

/-- One file is written, and nothing else is changed. -/
structure Replaces (files later : FileSystem) (location : List String) (content : ByteArray)
    (mode : Nat) : Prop where
  /-- The working directory stays. -/
  current : later.current = files.current
  /-- Nothing but a file is replaced. -/
  bare : ∀ entry, files.entryAt? location = some entry → ∃ content mode, entry = .file content mode
  /-- The entries afterwards. -/
  entryAt? : ∀ other, later.entryAt? other =
    if other = location then some (.file content mode) else files.entryAt? other

section Paths

variable {files : FileSystem} {directory name parent : String} {place : Place}

/-- What makes a name one that a file can have. -/
theorem isFileName_iff : IsFileName name ↔ (name ≠ "." ∧ name ≠ ".." ∧
    name.utf8ByteSize ≤ nameLimit) ∧ name ≠ "" ∧ '/' ∉ name.toList := by
  constructor
  · exact fun h => ⟨⟨h.stays, h.rises, h.short⟩, h.nonempty, h.noSlash⟩
  · rintro ⟨⟨hstays, hrises, hshort⟩, hnonempty, hslash⟩
    exact ⟨⟨hstays, hrises, hshort⟩, hnonempty, hslash⟩

instance (name : String) : Decidable (IsFileName name) := decidable_of_iff _ isFileName_iff.symm

/-- The piece of a file name leads somewhere, and not up. -/
theorem IsFileName.isVoid (h : IsFileName name) : Path.isVoid name.toList = false := by
  have hdot : name.toList ≠ ['.'] := fun heq => h.stays (String.toList_inj.1 heq)
  simp [Path.isVoid, h.nonempty, hdot]

/-- The steps of a file are those of its directory and its name. -/
theorem IsFileName.steps_join (h : IsFileName name) (directory : String) :
    steps (Path.join directory name) = leadingSteps directory ++ [name] := by
  obtain ⟨⟨before, hpieces, hbefore⟩, -⟩ := Path.pieces_join directory h.noSlash
  unfold steps
  simp only [hpieces, List.filter_append, List.map_append, hbefore, List.getLast?_concat,
    Option.any_some, h.isVoid, Bool.false_eq_true, if_false, List.append_nil]
  simp [h.isVoid, leadingSteps]

/-- The steps of a directory end with a dot when a dot is taken from it. -/
theorem steps_join_dot (directory : String) :
    steps (Path.join directory ".") = leadingSteps directory ++ ["."] := by
  have hslash : '/' ∉ ".".toList := by decide
  obtain ⟨⟨before, hpieces, hbefore⟩, -⟩ := Path.pieces_join directory hslash
  unfold steps
  simp only [hpieces, List.filter_append, List.map_append, hbefore, List.getLast?_concat]
  simp [Path.isVoid, leadingSteps]

/-- The steps of a path are those that lead somewhere, and perhaps a dot. -/
theorem steps_eq (path : String) :
    steps path = leadingSteps path ∨ steps path = leadingSteps path ++ ["."] := by
  unfold steps
  dsimp only
  split_ifs
  · exact .inr rfl
  · exact .inl (List.append_nil _)

/-- A path without a fault is one. -/
theorem pathFault?_eq_none_iff {path : String} : pathFault? path = none ↔
    '\x00' ∉ path.toList ∧ path ≠ "" ∧ path.utf8ByteSize < pathLimit := by
  unfold pathFault?
  split_ifs with hnull hempty hlong
  · simp_all
  · simp_all
  · simp_all
  · simp_all

/-- The start of a path without a fault has none, unless it is empty. -/
theorem pathFault?_of_isPrefix {path : String} (h : pathFault? path = none)
    (hbelow : parent.toList <+: path.toList) (hne : parent ≠ "") : pathFault? parent = none := by
  obtain ⟨hnull, -, hshort⟩ := pathFault?_eq_none_iff.1 h
  obtain ⟨rest, hrest⟩ := hbelow
  have hpath : path = parent ++ String.ofList rest := by
    rw [← String.toList_inj, String.toList_append, String.toList_ofList, hrest]
  refine pathFault?_eq_none_iff.2 ⟨fun hmem => hnull ?_, hne, ?_⟩
  · exact hrest ▸ List.mem_append_left rest hmem
  · rw [hpath, String.utf8ByteSize_append] at hshort
    omega

/-- A dot can be taken from a directory where a file name can. -/
theorem IsFileName.pathFault?_dot (h : IsFileName name)
    (hfault : pathFault? (Path.join directory name) = none) :
    pathFault? (Path.join directory ".") = none := by
  obtain ⟨front, hfront⟩ := Path.join_eq_append directory
  rw [hfront name (Path.isAbsolute_of_not_mem h.noSlash), pathFault?_eq_none_iff] at hfault
  rw [hfront "." (by decide), pathFault?_eq_none_iff]
  obtain ⟨hnull, -, hshort⟩ := hfault
  have hsize : name.utf8ByteSize ≠ 0 := by simpa using h.nonempty
  rw [String.utf8ByteSize_append] at hshort ⊢
  have hdot : ".".utf8ByteSize = 1 := rfl
  refine ⟨fun hmem => ?_, by simp, by omega⟩
  rw [String.toList_append] at hnull hmem
  rcases List.mem_append.1 hmem with hbefore | hlast
  · exact hnull (List.mem_append_left _ hbefore)
  · exact absurd hlast (by decide)

/-- A file name is taken from where its directory starts. -/
theorem IsFileName.startOf_join (h : IsFileName name) (here : List String) (directory : String) :
    startOf here (Path.join directory name) = startOf here directory := by
  rw [startOf, (Path.pieces_join directory h.noSlash).2, startOf]

/-- The path of a file that leads anywhere goes through its directory. -/
theorem IsFileName.exists_arrives (h : IsFileName name) {follow : Bool}
    (hplace : files.resolve follow (Path.join directory name) = .ok place) :
    pathFault? (Path.join directory name) = none ∧ ∃ location left, Arrives files.root linkLimit
      (startOf files.current directory) (leadingSteps directory) left location := by
  unfold resolve at hplace
  split at hplace
  · exact nomatch hplace
  · rename_i hfault
    rw [h.steps_join, h.startOf_join] at hplace
    obtain ⟨left, location, harrives⟩ := (finds_of_resolveSteps hplace).exists_arrives h.stays rfl
    exact ⟨hfault, location, left, harrives⟩

end Paths

section Slots

variable {files later : FileSystem} {directory name other : String} {location : List String}

/-- A path whose directory arrives somewhere leads to the directory, or to the name there. -/
theorem resolve_of_arrives {left : Nat} (hname : IsFileName name)
    (harrives : Arrives files.root linkLimit (startOf files.current directory)
      (leadingSteps directory) left location)
    (haccepted : pathFault? (Path.join directory name) = none) :
    files.resolve true (Path.join directory ".") = .ok (.taken location) ∧
      ((∀ target, files.entryAt? (location ++ [name]) ≠ some (.link target)) → ∀ follow,
        files.resolve follow (Path.join directory name) =
          .ok (if files.entryAt? (location ++ [name]) = none then .free (location ++ [name]) false
            else .taken (location ++ [name]))) := by
  constructor
  · have hslash : '/' ∉ ".".toList := by decide
    have hstart : startOf files.current (Path.join directory ".") =
        startOf files.current directory := by
      rw [startOf, (Path.pieces_join directory hslash).2, startOf]
    unfold resolve
    rw [hname.pathFault?_dot haccepted]
    dsimp only
    rw [steps_join_dot, hstart, harrives.resolveSteps_append (.inr rfl), resolveSteps_same,
      resolveSteps_eq_walkSteps]
    rfl
  · intro hunlinked follow
    unfold resolve
    rw [haccepted]
    dsimp only
    rw [hname.steps_join, hname.startOf_join,
      harrives.resolveSteps_append (.inl (List.cons_ne_nil _ _)), resolveSteps_name hname.toIsName]
    cases hnode : files.root.at? (location ++ [name]) with
    | none =>
      have hnone : files.entryAt? (location ++ [name]) = none := Node.entryAt?_eq_none_iff.2 hnode
      rw [if_pos hnone]
      rfl
    | some node =>
      have hthere : files.entryAt? (location ++ [name]) ≠ none :=
        fun hnone => nomatch hnode.symm.trans (Node.entryAt?_eq_none_iff.1 hnone)
      rw [if_neg hthere]
      cases node with
      | directory entries =>
        dsimp only
        rw [resolveSteps_eq_walkSteps]
        rfl
      | file content mode => rfl
      | link target => exact absurd (Node.entryAt?_eq_link_iff.2 hnode) (hunlinked target)

/-- The path of a directory leads to its location. -/
theorem HasSlot.resolve_dot (h : files.HasSlot directory name location) :
    files.resolve true (Path.join directory ".") = .ok (.taken location) := by
  obtain ⟨left, harrives⟩ := h.arrives
  exact (resolve_of_arrives h.fileName harrives h.accepted).1

/-- The path of a file leads to its name at the location of the directory. -/
theorem HasSlot.resolve (h : files.HasSlot directory name location) (follow : Bool) :
    files.resolve follow (Path.join directory name) =
      .ok (if files.entryAt? (location ++ [name]) = none then .free (location ++ [name]) false
        else .taken (location ++ [name])) := by
  obtain ⟨left, harrives⟩ := h.arrives
  exact (resolve_of_arrives h.fileName harrives h.accepted).2 h.unlinked follow

/-- Where the path of a file leads to something, and the directory is free of links, there is a slot
for the file. -/
theorem IsLinkFree.exists_hasSlot (h : files.IsLinkFree directory) (hname : IsFileName name)
    {node : Node} (hnode : files.node true (Path.join directory name) = .ok node) :
    ∃ location, files.HasSlot directory name location := by
  obtain ⟨place, hplace, hfound⟩ := FileSystem.node_eq_ok_iff.1 hnode
  obtain ⟨haccepted, location, left, harrives⟩ := hname.exists_arrives hplace
  obtain ⟨hdot, hresolve⟩ := resolve_of_arrives hname harrives haccepted
  have hunlinked := h location hdot [name]
  rw [hresolve hunlinked] at hplace
  split_ifs at hplace
  · exact nomatch hplace
  · cases hplace
    have habove := Node.entryAt?_eq_directory_iff.2 (Node.at?_of_append hfound)
    exact ⟨location, ⟨left, harrives⟩, habove, hname, haccepted, hunlinked⟩

/-- The path of a file leads to what stands at its name. -/
theorem HasSlot.node_eq_ok_iff (h : files.HasSlot directory name location) {node : Node} :
    files.node true (Path.join directory name) = .ok node ↔
      files.root.at? (location ++ [name]) = some node := by
  rw [FileSystem.node_eq_ok_iff, h.resolve]
  constructor
  · rintro ⟨other, hresolve, hnode⟩
    split_ifs at hresolve
    · exact nomatch hresolve
    · cases hresolve
      exact hnode
  · intro hnode
    have hthere : files.entryAt? (location ++ [name]) ≠ none :=
      fun hnone => nomatch hnode.symm.trans (Node.entryAt?_eq_none_iff.1 hnone)
    exact ⟨location ++ [name], by rw [if_neg hthere], hnode⟩

/-- There is something at the path of a file when there is an entry at its name. -/
theorem HasSlot.holds_iff (h : files.HasSlot directory name location) :
    files.holds (Path.join directory name) = true ↔
      files.entryAt? (location ++ [name]) ≠ none := by
  rw [holds_iff_exists_node, ne_eq, FileSystem.entryAt?, Node.entryAt?_eq_none_iff, ← ne_eq,
    Option.ne_none_iff_exists']
  exact exists_congr fun node => h.node_eq_ok_iff

/-- What is read at the path of a file is decided by the entry at its name. -/
theorem HasSlot.read_eq (h : files.HasSlot directory name location) :
    files.read (Path.join directory name) =
      match files.entryAt? (location ++ [name]) with
      | some (.file content mode) => if mayRead mode then .ok content else .error .permissionDenied
      | some _ => .error .isADirectory
      | none => .error .notFound := by
  unfold read
  cases hnode : files.root.at? (location ++ [name]) with
  | none =>
    have hnone : files.entryAt? (location ++ [name]) = none := Node.entryAt?_eq_none_iff.2 hnode
    unfold FileSystem.node
    rw [h.resolve, hnone]
    rfl
  | some node =>
    rw [h.node_eq_ok_iff.2 hnode]
    cases node with
    | directory entries =>
      rw [show files.entryAt? (location ++ [name]) = some .directory from
        Node.entryAt?_eq_directory_iff.2 ⟨entries, hnode⟩]
      rfl
    | file content mode =>
      rw [show files.entryAt? (location ++ [name]) = some (.file content mode) from
        Node.entryAt?_eq_file_iff.2 hnode]
      rfl
    | link target => exact absurd (Node.entryAt?_eq_link_iff.2 hnode) (h.unlinked target)

/-- The directory of a file is its parent. -/
theorem HasSlot.hasParent (h : files.HasSlot directory name location) :
    files.HasParent (Path.join directory name) := by
  intro parent hparent
  obtain ⟨hparent, hnonempty⟩ := Option.filter_eq_some_iff.1 hparent
  have hne : parent ≠ "" := by simpa using hnonempty
  obtain ⟨⟨before, hpieces, hbefore⟩, hstart⟩ := Path.pieces_join directory h.fileName.noSlash
  obtain ⟨hheld, hbelow⟩ := Path.parent?_spec hparent hpieces h.fileName.isVoid
  have hsteps : leadingSteps parent = leadingSteps directory := by
    rw [leadingSteps, hheld, hbefore, leadingSteps]
  have habsolute : Path.isAbsolute parent = Path.isAbsolute directory := by
    rw [← hstart]
    obtain ⟨rest, hrest⟩ := hbelow
    rw [Path.isAbsolute, Path.isAbsolute, ← hrest,
      List.head?_append_of_ne_nil _ (by simpa using hne)]
  obtain ⟨left, harrives⟩ := h.arrives
  refine isDirectory_iff.2 ⟨location, ?_, h.above⟩
  unfold FileSystem.resolve
  rw [pathFault?_of_isPrefix h.accepted hbelow hne]
  dsimp only
  have hstay : resolveSteps files.root true left location [] = .ok (.taken location) := by
    rw [resolveSteps_eq_walkSteps]
    rfl
  rw [startOf, habsolute, ← startOf]
  rcases steps_eq parent with hparent | hparent
  · have hall : resolveSteps files.root true linkLimit (startOf files.current directory)
        (leadingSteps directory ++ []) = _ := harrives.resolveSteps_append (.inr rfl)
    rw [List.append_nil] at hall
    rw [hparent, hsteps, hall, hstay]
  · rw [hparent, hsteps, harrives.resolveSteps_append (.inr rfl), resolveSteps_same, hstay]

/-- The path of a file does not end with a slash. -/
theorem IsFileName.endsWithSlash_join (h : IsFileName name) (directory : String) :
    endsWithSlash (Path.join directory name) = false := by
  obtain ⟨front, hfront⟩ := Path.join_eq_append directory
  have hne : name.toList ≠ [] := by simpa using h.nonempty
  rw [hfront name (Path.isAbsolute_of_not_mem h.noSlash), endsWithSlash, String.toList_append,
    List.getLast?_append_of_ne_nil _ hne, beq_eq_false_iff_ne]
  exact fun hlast => h.noSlash (List.mem_of_getLast? hlast)

/-- A file of a directory holds the text that its entry does. -/
theorem HasSlot.holds_text (h : files.HasSlot directory name location) {text : String} {mode : Nat}
    (hentry : files.entryAt? (location ++ [name]) = some (.file text.toUTF8 mode)) :
    files.Holds (Path.join directory name) text mode :=
  ⟨h.hasParent, h.fileName.endsWithSlash_join directory,
    h.node_eq_ok_iff.2 (Node.entryAt?_eq_file_iff.1 hentry)⟩

/-- A directory has a slot for a file where it has one for another file and no link at the name. -/
theorem HasSlot.of_slot (h : files.HasSlot directory name location)
    (hlinks : files.IsLinkFree directory) (hother : IsFileName other)
    (haccepted : pathFault? (Path.join directory other) = none) :
    files.HasSlot directory other location :=
  ⟨h.arrives, h.above, hother, haccepted, hlinks location h.resolve_dot [other]⟩

/-- A file that is written at a path with a slot is put at its name. -/
theorem HasSlot.replaces_put (h : files.HasSlot directory name location) {place : Place}
    (hplace : files.resolve true (Path.join directory name) = .ok place)
    (hwritable : IsWritable files.entryAt? place) (content : ByteArray) (mode : Nat) :
    Replaces files (files.put place.location (.file content mode)) (location ++ [name]) content
      mode := by
  have hlocation : place.location = location ++ [name] := by
    rw [h.resolve] at hplace
    cases hplace
    split_ifs <;> rfl
  rw [hlocation]
  have hbare : ∀ entry, files.entryAt? (location ++ [name]) = some entry →
      ∃ content mode, entry = .file content mode := by
    intro entry hentry
    rw [h.resolve, if_neg (hentry ▸ Option.some_ne_none entry)] at hplace
    cases hplace
    obtain ⟨content, mode, hfile⟩ := hwritable
    exact ⟨content, mode, Option.some.inj (hentry.symm.trans hfile)⟩
  refine ⟨rfl, hbare, fun other => ?_⟩
  obtain ⟨entries, habove⟩ := Node.entryAt?_eq_directory_iff.1 h.above
  have hroom : files.root.HasRoom (location ++ [name]) := by
    refine ⟨⟨location, name, entries, rfl, habove⟩, fun node hnode => ?_⟩
    obtain ⟨content, mode, hfile⟩ := hbare node.entry (by
      rw [FileSystem.entryAt?, Node.entryAt?, hnode, Option.map_some])
    cases node with
    | file _ _ => rfl
    | directory _ => cases hfile
    | link _ => cases hfile
  exact hroom.entryAt?_put rfl

end Slots

section Replaces

variable {files middle later : FileSystem} {directory name other : String}
  {place location : List String} {content first : ByteArray} {mode old : Nat}

/-- A file that is written twice is written. -/
theorem Replaces.trans (h : Replaces files middle place first old)
    (h' : Replaces middle later place content mode) : Replaces files later place content mode := by
  refine ⟨h'.current.trans h.current, h.bare, fun other => ?_⟩
  rw [h'.entryAt?, h.entryAt?]
  split_ifs <;> rfl

/-- A directory keeps its slots when a file is written. -/
theorem Replaces.hasSlot (h : Replaces files later place content mode)
    (hslot : files.HasSlot directory name location) : later.HasSlot directory name location := by
  have hkept (other : List String) (entry : Entry) (hentry : files.entryAt? other = some entry)
      (hfile : ∀ content mode, entry ≠ .file content mode) : later.entryAt? other = some entry := by
    rw [h.entryAt?, if_neg, hentry]
    rintro rfl
    obtain ⟨content, mode, hold⟩ := h.bare entry hentry
    exact hfile content mode hold
  obtain ⟨left, harrives⟩ := hslot.arrives
  constructor
  · rw [h.current]
    exact ⟨left, harrives.persist (fun other hentry => hkept other _ hentry (by simp))
      fun other target hentry => hkept other _ hentry (by simp)⟩
  · exact hkept location _ hslot.above (by simp)
  · exact hslot.fileName
  · exact hslot.accepted
  · intro target
    rw [h.entryAt?]
    split_ifs
    · simp
    · exact hslot.unlinked target

end Replaces

end FileSystem

end ProgramConnector
