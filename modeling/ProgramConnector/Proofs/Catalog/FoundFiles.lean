import ProgramConnector.Proofs.Catalog.Rediscovery
import ProgramConnector.Proofs.Files.WalkedPaths

/-!
# Which files are found

The artifact files of a directory are the regular files below it with their extension, each at the
path that the names on its way give. When something is erased from the directory, what is found is
what was found before, without the paths that are within the erased one.
-/

namespace ProgramConnector

open FileSystem

/-- Whether a path is another one or below it, by its components. -/
def Path.isWithin (above path : String) : Bool :=
  (Path.components above).isPrefixOf (Path.components path)

/-- What is made from members after a value gives way to another one, when the same is made from the
new one as something else makes from the old one, and from the other members too. -/
theorem Members.map_put_of_others {α β : Type} {f g : String × α → β} {key : String}
    {old value : α} {members : List (String × α)} (hdistinct : (Members.keys members).Nodup)
    (hfind : Members.find? key members = some old)
    (hothers : ∀ member ∈ members, member.1 ≠ key → f member = g member)
    (hself : f (key, value) = g (key, old)) :
    (Members.put key value members).map f = members.map g := by
  induction members with
  | nil => exact nomatch hfind
  | cons member rest ih =>
    obtain ⟨name, first⟩ := member
    obtain ⟨hname, hrest⟩ := List.nodup_cons.1 hdistinct
    obtain ⟨hfirst, hmore⟩ := List.forall_mem_cons.1 hothers
    by_cases hn : name = key
    · subst hn
      have hsame : rest.map f = rest.map g := by
        refine List.map_congr_left fun member hmember => hmore member hmember fun heq => hname ?_
        have hkey : member.1 ∈ Members.keys rest := List.mem_map_of_mem hmember
        exact heq ▸ hkey
      simp only [Members.find?, beq_self_eq_true, if_true, Option.some.injEq] at hfind
      rw [Members.put, if_pos (beq_self_eq_true name), List.map_cons, List.map_cons, hsame, hself,
        hfind]
    · simp only [Members.find?, beq_iff_eq, hn, if_false] at hfind
      rw [Members.put, if_neg (by simpa using hn), List.map_cons, List.map_cons, hfirst hn,
        ih hrest hfind hmore]

/-- Named lists without elements can be left out of all lists together. -/
theorem flatMap_filter_of_empty {α : Type} {p : String × List α → Bool}
    {named : List (String × List α)} (h : ∀ entry ∈ named, ¬ p entry = true → entry.2 = []) :
    (named.filter p).flatMap Prod.snd = named.flatMap Prod.snd := by
  induction named with
  | nil => rfl
  | cons entry rest ih =>
    obtain ⟨hentry, hrest⟩ := List.forall_mem_cons.1 h
    by_cases hp : p entry = true
    · rw [List.filter_cons_of_pos hp, List.flatMap_cons, List.flatMap_cons, ih hrest]
    · rw [List.filter_cons_of_neg hp, List.flatMap_cons, hentry hp, ih hrest]
      rfl

namespace Node

/-- A tree in which every name can be that of a file, and no directory has a name twice. -/
inductive IsWellNamed : Node → Prop where
  /-- A file has no names. -/
  | file {content : ByteArray} {mode : Nat} : IsWellNamed (.file content mode)
  /-- A link has no names. -/
  | link {target : String} : IsWellNamed (.link target)
  /-- The names of a directory. -/
  | directory {entries : List (String × Node)} (names : ∀ entry ∈ entries, IsFileName entry.1)
    (distinct : (Members.keys entries).Nodup) (inner : ∀ entry ∈ entries, IsWellNamed entry.2) :
    IsWellNamed (.directory entries)

section Names

variable {node child other : Node} {name : String} {below names : List String}
  {entries : List (String × Node)} {content : ByteArray} {mode : Nat}

/-- What is in a directory has well-formed names when the directory does. -/
theorem IsWellNamed.of_find? (h : (Node.directory entries).IsWellNamed)
    (hfind : Members.find? name entries = some child) :
    IsFileName name ∧ child.IsWellNamed := by
  cases h with
  | directory names distinct inner =>
    have hmember := Members.mem_of_find? hfind
    exact ⟨names _ hmember, inner _ hmember⟩

/-- The names on the way to a place of a tree are names of files. -/
theorem IsWellNamed.isFileName (h : node.IsWellNamed) (hat : node.at? below = some other) :
    ∀ name ∈ below, IsFileName name := by
  induction below generalizing node with
  | nil => exact fun _ hname => absurd hname List.not_mem_nil
  | cons name rest ih =>
    cases node with
    | directory entries =>
      obtain ⟨child, hchild, hrest⟩ := Option.bind_eq_some_iff.1 hat
      obtain ⟨hname, hinner⟩ := h.of_find? hchild
      exact List.forall_mem_cons.2 ⟨hname, ih hinner hrest⟩
    | file content mode => exact nomatch hat
    | link target => exact nomatch hat

/-- Erasing something below a directory changes what is found under one name of it. -/
theorem exists_erase_cons (name : String) (rest : List String) (entries : List (String × Node)) :
    ∃ inner, (Node.directory entries).erase (name :: rest) = .directory inner ∧
      (∀ key, key ≠ name → Members.find? key inner = Members.find? key entries) ∧
      Members.find? name inner =
        if rest = [] then none else (Members.find? name entries).map (erase rest) := by
  cases rest with
  | nil =>
    exact ⟨Members.without name entries, rfl,
      fun key hne => Members.find?_without_of_ne hne entries,
      Members.find?_without_self name entries⟩
  | cons next rest =>
    have hrest : next :: rest = [] → False := fun hnil => nomatch hnil
    rw [erase.eq_3 name (next :: rest) entries hrest, if_neg (List.cons_ne_nil next rest)]
    cases hfind : Members.find? name entries with
    | none => exact ⟨entries, rfl, fun _ _ => rfl, hfind⟩
    | some child =>
      exact ⟨_, rfl, fun key hne => Members.find?_put_of_ne hne _ entries,
        Members.find?_put_self name _ entries⟩

/-- A file that is not within the place that is erased stands where it stood. -/
theorem at?_erase_eq_file_iff (hne : below ≠ []) (hapart : ¬ below <+: names) :
    (node.erase below).at? names = some (.file content mode) ↔
      node.at? names = some (.file content mode) := by
  induction below generalizing node names with
  | nil => exact absurd rfl hne
  | cons name rest ih =>
    cases node with
    | file _ _ => simp [erase]
    | link _ => simp [erase]
    | directory entries =>
      obtain ⟨inner, herase, hothers, hname⟩ := exists_erase_cons name rest entries
      rw [herase]
      cases names with
      | nil => simp [at?]
      | cons key more =>
        rw [at?, at?]
        by_cases hkey : key = name
        · subst hkey
          have hrest : ¬ rest <+: more := fun hp => hapart (List.cons_prefix_cons.2 ⟨rfl, hp⟩)
          have hrestNe : rest ≠ [] := fun hnil => hrest (hnil ▸ List.nil_prefix)
          rw [hname, if_neg hrestNe]
          cases Members.find? key entries with
          | none => exact Iff.rfl
          | some child => exact ih hrestNe hrest
        · rw [hothers key hkey]

end Names

end Node

namespace Catalog

section Found

variable {node : Node} {base path : String} {below : List String} {entries : List (String × Node)}

/-- What is found below a directory is found below one of its entries. -/
theorem mem_foundBelow_directory : path ∈ foundBelow base (.directory entries) ↔
    ∃ entry ∈ entries, path ∈ foundBelow (Path.join base entry.1) entry.2 := by
  have hsorted (named : List (String × List String)) (entry : String × List String) :
      entry ∈ sortedByName named ↔ entry ∈ named := List.mem_mergeSort
  simp only [foundBelow_directory, List.mem_flatMap, hsorted, List.mem_map]
  constructor
  · rintro ⟨_, ⟨entry, hentry, rfl⟩, hpath⟩
    exact ⟨entry, hentry, hpath⟩
  · rintro ⟨entry, hentry, hpath⟩
    exact ⟨_, ⟨entry, hentry, rfl⟩, hpath⟩

/-- The artifact files of a tree are its regular files, at the paths of a walk, with their
extension. -/
theorem mem_foundBelow_iff (h : node.IsWellNamed) : path ∈ foundBelow base node ↔
    ∃ below content mode, node.at? below = some (.file content mode) ∧
      path = walkedPath base below ∧ Path.extension? path = some artifactExtension := by
  induction h generalizing base with
  | @file content mode =>
    have hfound : path ∈ foundBelow base (.file content mode) ↔
        path = base ∧ Path.extension? base = some artifactExtension := by
      simp only [foundBelow, Node.walk, isArtifactFile, Node.isFile]
      by_cases hextension : Path.extension? base = some artifactExtension
      · simp [hextension]
      · simp [hextension]
    rw [hfound]
    constructor
    · rintro ⟨rfl, hextension⟩
      exact ⟨[], content, mode, rfl, rfl, hextension⟩
    · rintro ⟨below, _, _, hat, rfl, hextension⟩
      cases below with
      | nil => exact ⟨rfl, hextension⟩
      | cons name rest => cases hat
  | @link target =>
    have hfound : foundBelow base (.link target) = [] := by
      simp [foundBelow, Node.walk, isArtifactFile, Node.isFile]
    rw [hfound]
    constructor
    · exact fun hnot => absurd hnot List.not_mem_nil
    · rintro ⟨below, _, _, hat, -⟩
      cases below with
      | nil => cases hat
      | cons name rest => cases hat
  | @directory entries names distinct inner ih =>
    rw [mem_foundBelow_directory]
    constructor
    · rintro ⟨⟨name, child⟩, hentry, hpath⟩
      obtain ⟨below, content, mode, hat, hwalked, hextension⟩ := (ih _ hentry).1 hpath
      have hfind := Members.find?_eq_some_of_mem distinct hentry
      refine ⟨name :: below, content, mode, ?_, hwalked, hextension⟩
      rw [Node.at?, hfind]
      exact hat
    · rintro ⟨below, content, mode, hat, hwalked, hextension⟩
      cases below with
      | nil => cases hat
      | cons name rest =>
        obtain ⟨child, hchild, hrest⟩ := Option.bind_eq_some_iff.1 hat
        have hentry := Members.mem_of_find? hchild
        have hbelow := (ih _ hentry).2 ⟨rest, content, mode, hrest, hwalked, hextension⟩
        exact ⟨(name, child), hentry, hbelow⟩

/-- What is found below a path is within it. -/
theorem isWithin_of_mem_foundBelow (h : node.IsWellNamed) (hpath : path ∈ foundBelow base node) :
    Path.isWithin base path = true := by
  obtain ⟨below, content, mode, hat, rfl, -⟩ := (mem_foundBelow_iff h).1 hpath
  refine List.isPrefixOf_iff_prefix.2 ?_
  rw [Path.components_walkedPath (h.isFileName hat)]
  exact List.prefix_append _ _

/-- The paths of a walk from a directory are within one of them when the names on its way are. -/
theorem isWithin_walkedPath_iff {names : List String} (hbelow : ∀ name ∈ below, IsFileName name)
    (hnames : ∀ name ∈ names, IsFileName name) :
    Path.isWithin (walkedPath base below) (walkedPath base names) = true ↔ below <+: names := by
  unfold Path.isWithin
  rw [List.isPrefixOf_iff_prefix, Path.components_walkedPath hbelow,
    Path.components_walkedPath hnames, List.prefix_append_right_inj]
  exact List.prefix_map_iff_of_injective Path.name_injective

/-- What is left when paths of a directory are left out is what is left of each entry. -/
theorem filter_foundBelow_directory (p : String → Bool) (base : String)
    (entries : List (String × Node)) :
    (foundBelow base (.directory entries)).filter p =
      (sortedByName (entries.map fun entry =>
        (entry.1, (foundBelow (Path.join base entry.1) entry.2).filter p))).flatMap Prod.snd := by
  have hsorted := sortedByName_map (fun _ found => found.filter p) (entries.map fun entry =>
    (entry.1, foundBelow (Path.join base entry.1) entry.2))
  rw [List.map_map] at hsorted
  have hleft := congrArg (fun named => named.flatMap Prod.snd) hsorted
  rw [List.flatMap_map] at hleft
  rw [foundBelow_directory, List.filter_flatMap]
  exact hleft.symm

/-- Where no file is within a place, nothing that is found is within its path. -/
theorem filter_foundBelow_of_apart (h : node.IsWellNamed)
    (hbelow : ∀ name ∈ below, IsFileName name)
    (hapart : ∀ names content mode, node.at? names = some (.file content mode) →
      ¬ below <+: names) :
    (foundBelow base node).filter (fun path => !Path.isWithin (walkedPath base below) path) =
      foundBelow base node := by
  refine List.filter_eq_self.2 fun path hpath => ?_
  obtain ⟨names, content, mode, hat, rfl, -⟩ := (mem_foundBelow_iff h).1 hpath
  have hout : Path.isWithin (walkedPath base below) (walkedPath base names) = false := by
    rw [← Bool.not_eq_true, isWithin_walkedPath_iff hbelow (h.isFileName hat)]
    exact hapart names content mode hat
  exact congrArg not hout

/-- Nothing that is found at one name of a directory is within another name of it. -/
theorem filter_foundBelow_of_ne {name key : String} {rest : List String} (h : node.IsWellNamed)
    (hkey : IsFileName key) (hbelow : ∀ step ∈ name :: rest, IsFileName step) (hne : key ≠ name) :
    (foundBelow (Path.join base key) node).filter
      (fun path => !Path.isWithin (walkedPath base (name :: rest)) path) =
      foundBelow (Path.join base key) node := by
  refine List.filter_eq_self.2 fun path hpath => ?_
  obtain ⟨below, content, mode, hat, rfl, -⟩ := (mem_foundBelow_iff h).1 hpath
  have hnames : ∀ step ∈ key :: below, IsFileName step :=
    List.forall_mem_cons.2 ⟨hkey, h.isFileName hat⟩
  have hapart : ¬ name :: rest <+: key :: below :=
    fun hp => hne (List.cons_prefix_cons.1 hp).1.symm
  have hout : Path.isWithin (walkedPath base (name :: rest)) (walkedPath base (key :: below)) =
      false := by
    rw [← Bool.not_eq_true, isWithin_walkedPath_iff hbelow hnames]
    exact hapart
  exact congrArg not hout

/-- When an entry is erased from a directory, what is found is what was found before, without the
paths that are within that of the entry. -/
theorem foundBelow_without {name : String} (h : (Node.directory entries).IsWellNamed)
    (hname : IsFileName name) (base : String) :
    foundBelow base (.directory (Members.without name entries)) =
      (foundBelow base (.directory entries)).filter
        fun path => !Path.isWithin (walkedPath base [name]) path := by
  cases h with
  | @directory entries names distinct inner =>
    let kept (entry : String × Node) : String × List String :=
      (entry.1, (foundBelow (Path.join base entry.1) entry.2).filter
        fun path => !Path.isWithin (walkedPath base [name]) path)
    have hothers : (Members.without name entries).map (fun entry =>
        (entry.1, foundBelow (Path.join base entry.1) entry.2)) =
        (entries.map kept).filter fun found => found.1 != name := by
      rw [List.filter_map]
      refine List.map_congr_left fun entry hentry => ?_
      obtain ⟨hmem, hkey⟩ := List.mem_filter.1 hentry
      exact congrArg (Prod.mk entry.1) (filter_foundBelow_of_ne (inner entry hmem)
        (names entry hmem) (List.forall_mem_singleton.2 hname) (by simpa using hkey)).symm
    have hempty : ∀ found ∈ sortedByName (entries.map kept), ¬ (found.1 != name) = true →
        found.2 = [] := by
      intro found hfound hkey
      have hfound : found ∈ entries.map kept := List.mem_mergeSort.1 hfound
      obtain ⟨entry, hentry, rfl⟩ := List.mem_map.1 hfound
      have hentryName : entry.1 = name := by simpa using hkey
      refine List.filter_eq_nil_iff.2 fun path hpath => ?_
      have hwithin := isWithin_of_mem_foundBelow (inner entry hentry) hpath
      rw [hentryName] at hwithin
      have hin : Path.isWithin (walkedPath base [name]) path = true := hwithin
      simp [hin]
    rw [foundBelow_directory, filter_foundBelow_directory, hothers, sortedByName_filter]
    exact flatMap_filter_of_empty hempty

/-- When something is erased from what stands at an entry, what is found is what was found before,
without the paths that are within the erased one. -/
theorem foundBelow_put_child {name : String} {rest : List String} {child new : Node}
    (h : (Node.directory entries).IsWellNamed) (hbelow : ∀ step ∈ name :: rest, IsFileName step)
    (hfind : Members.find? name entries = some child)
    (hchild : foundBelow (Path.join base name) new = (foundBelow (Path.join base name) child).filter
      fun path => !Path.isWithin (walkedPath base (name :: rest)) path) :
    foundBelow base (.directory (Members.put name new entries)) =
      (foundBelow base (.directory entries)).filter
        fun path => !Path.isWithin (walkedPath base (name :: rest)) path := by
  cases h with
  | @directory entries names distinct inner =>
    let found (entry : String × Node) : String × List String :=
      (entry.1, foundBelow (Path.join base entry.1) entry.2)
    let kept (entry : String × Node) : String × List String :=
      (entry.1, (foundBelow (Path.join base entry.1) entry.2).filter
        fun path => !Path.isWithin (walkedPath base (name :: rest)) path)
    have hothers : ∀ entry ∈ entries, entry.1 ≠ name → found entry = kept entry := by
      intro entry hentry hkey
      exact congrArg (Prod.mk entry.1) (filter_foundBelow_of_ne (inner entry hentry)
        (names entry hentry) hbelow hkey).symm
    have hself : found (name, new) = kept (name, child) := congrArg (Prod.mk name) hchild
    have hall := Members.map_put_of_others distinct hfind hothers hself
    rw [foundBelow_directory, filter_foundBelow_directory]
    exact congrArg (fun named => (sortedByName named).flatMap Prod.snd) hall

/-- When something is erased from a tree, what is found is what was found before, without the paths
that are within the erased one. -/
theorem foundBelow_erase (h : node.IsWellNamed) (hne : below ≠ [])
    (hbelow : ∀ name ∈ below, IsFileName name) (base : String) :
    foundBelow base (node.erase below) = (foundBelow base node).filter
      fun path => !Path.isWithin (walkedPath base below) path := by
  induction below generalizing node base with
  | nil => exact absurd rfl hne
  | cons name rest ih =>
    obtain ⟨hname, hrest⟩ := List.forall_mem_cons.1 hbelow
    cases node with
    | file content mode =>
      have hsame : (Node.file content mode).erase (name :: rest) = .file content mode := by
        cases rest <;> rfl
      rw [hsame]
      refine (filter_foundBelow_of_apart h hbelow fun names _ _ hat hp => ?_).symm
      obtain ⟨more, rfl⟩ := hp
      cases hat
    | link target =>
      have hsame : (Node.link target).erase (name :: rest) = .link target := by
        cases rest <;> rfl
      rw [hsame]
      refine (filter_foundBelow_of_apart h hbelow fun names _ _ hat hp => ?_).symm
      obtain ⟨more, rfl⟩ := hp
      cases hat
    | directory entries =>
      cases rest with
      | nil => exact foundBelow_without h hname base
      | cons next rest =>
        have hmore : next :: rest = [] → False := List.cons_ne_nil next rest
        rw [Node.erase.eq_3 name (next :: rest) entries hmore]
        cases hfind : Members.find? name entries with
        | none =>
          refine (filter_foundBelow_of_apart h hbelow fun names _ _ hat hp => ?_).symm
          obtain ⟨more, rfl⟩ := hp
          rw [List.cons_append, Node.at?, hfind] at hat
          cases hat
        | some child =>
          have hchild := ih (h.of_find? hfind).2 (List.cons_ne_nil next rest) hrest
            (Path.join base name)
          exact foundBelow_put_child h hbelow hfind hchild

/-- A directory is at a path that leads to one. -/
theorem isDirectory_of_node {files : FileSystem}
    (h : files.node true base = .ok (.directory entries)) : files.isDirectory base = true := by
  unfold FileSystem.isDirectory
  rw [h]
  rfl

/-- Where a path leads to a directory, through whatever links, the artifact files are those found
below it. -/
theorem discover_of_node {files : FileSystem}
    (h : files.node true base = .ok (.directory entries)) :
    discover files base = .ok (foundBelow base (.directory entries)) := by
  obtain ⟨location, hresolve, hnode⟩ := node_eq_ok_iff.1 h
  obtain ⟨other, hother, hplace⟩ := exists_taken_of_resolve hresolve
  rcases hplace with rfl | ⟨target, hlink⟩
  · unfold discover FileSystem.walk
    rw [node_eq_ok_iff.2 ⟨other, hother, hnode⟩]
    rfl
  · have hwalk : files.walk base =
        .ok ((base, .link target) :: ((Node.directory entries).walk base).drop 1) := by
      unfold FileSystem.walk
      rw [node_eq_ok_iff.2 ⟨other, hother, hlink⟩, h]
      rfl
    unfold discover foundBelow
    rw [hwalk, Node.walk]
    rfl

end Found

end Catalog

end ProgramConnector
