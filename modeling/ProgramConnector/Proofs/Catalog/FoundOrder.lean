import ProgramConnector.Proofs.Catalog.FoundFiles
import Mathlib.Data.List.Lex

/-!
# The order of found files

The entries of every directory are visited sorted by name. So the paths of the artifact files come
in increasing order, compared component by component, whatever order a directory lists its entries
in. Which files they are is said by their names: the extension stands behind the last dot, and
something stands before the dot.
-/

namespace ProgramConnector

/-! ## The extension of a name -/

/-- A name has an extension when it ends with a dot and the extension, and something stands before
the dot. -/
theorem Path.extensionOfName?_eq_some_iff {name extension : List Char} (h : '.' ∉ extension) :
    Path.extensionOfName? name = some extension ↔
      ∃ stem, stem ≠ [] ∧ name = stem ++ '.' :: extension := by
  constructor
  · intro hname
    obtain ⟨stem, rfl⟩ := Path.suffix_of_extensionOfName? hname
    refine ⟨stem, ?_, rfl⟩
    rintro rfl
    have hpieces : Text.splitAt '.' ('.' :: extension) = [[], extension] := by
      have happend := Text.splitAt_append_cons '.' [] extension
      rwa [Text.splitAt_of_not_mem h] at happend
    rw [Path.extensionOfName?, List.nil_append, hpieces] at hname
    exact nomatch hname
  · rintro ⟨stem, hstem, rfl⟩
    have hpieces : Text.splitAt '.' (stem ++ '.' :: extension) =
        Text.splitAt '.' stem ++ [extension] := by
      rw [Text.splitAt_append_cons, Text.splitAt_of_not_mem h]
    obtain ⟨before, more, hmore⟩ :=
      List.exists_cons_of_ne_nil (mt List.reverse_eq_nil_iff.1 (Text.splitAt_ne_nil '.' stem))
    have hsome : ¬ (before.isEmpty && more.isEmpty) = true := by
      intro hempty
      obtain ⟨hbefore, hnone⟩ := Bool.and_eq_true_iff.1 hempty
      have hjoined := Text.intercalate_splitAt '.' stem
      rw [← List.reverse_reverse (Text.splitAt '.' stem), hmore, List.isEmpty_iff.1 hbefore,
        List.isEmpty_iff.1 hnone] at hjoined
      exact hstem hjoined.symm
    unfold Path.extensionOfName?
    rw [hpieces, List.reverse_append, List.reverse_singleton, hmore]
    exact if_neg hsome

/-- A name is that of an artifact file when it ends with `.json` and something stands before. -/
theorem Path.extensionOfName?_artifact_iff (name : String) :
    Path.extensionOfName? name.toList = some Catalog.artifactExtension ↔
      ∃ stem, stem ≠ "" ∧ name = stem ++ ".json" := by
  have hdot : '.' ∉ Catalog.artifactExtension := by decide
  have hending : ".json".toList = '.' :: Catalog.artifactExtension := rfl
  rw [Path.extensionOfName?_eq_some_iff hdot]
  constructor
  · rintro ⟨stem, hstem, hname⟩
    refine ⟨String.ofList stem, fun hempty => hstem ?_, String.toList_inj.1 ?_⟩
    · simpa using congrArg String.toList hempty
    · rw [String.toList_append, String.toList_ofList, hending, hname]
  · rintro ⟨stem, hstem, rfl⟩
    refine ⟨stem.toList, fun hempty => hstem (String.toList_inj.1 hempty), ?_⟩
    rw [String.toList_append, hending]

/-! ## The order of paths -/

/-- What components are compared by: what they are, and then what the name is. -/
def Path.Component.rank : Path.Component → Nat × List Char
  | .root => (0, [])
  | .here => (1, [])
  | .up => (2, [])
  | .name text => (3, text)

/-- The order of components: the root directory, the directory itself, the directory above, and then
names by their texts. -/
def Path.Component.Before (a b : Path.Component) : Prop := Prod.Lex (· < ·) (· < ·) a.rank b.rank

/-- The order of paths, component by component. A path stands before all paths below it. -/
def Path.Before (a b : String) : Prop :=
  List.Lex Path.Component.Before (Path.components a) (Path.components b)

/-- A component that stands before another one is another one. -/
theorem Path.Component.Before.ne {a b : Path.Component} (h : a.Before b) : a ≠ b := by
  rintro rfl
  rcases Prod.lex_def.1 h with hless | ⟨-, hless⟩
  · exact Nat.lt_irrefl _ hless
  · exact List.lt_irrefl _ hless

/-- A path that stands before another one is another one. -/
theorem Path.Before.ne {a b : String} (h : Path.Before a b) : a ≠ b := by
  have hcomponents := List.Lex.to_ne (List.Lex.imp (fun _ _ => Path.Component.Before.ne) _ _ h)
  rintro rfl
  exact hcomponents rfl

/-- Different names of a directory order what is below them. -/
theorem Path.before_walkedPath {base name other : String} {below behind : List String}
    (hbelow : ∀ step ∈ name :: below, FileSystem.IsFileName step)
    (hbehind : ∀ step ∈ other :: behind, FileSystem.IsFileName step) (h : name < other) :
    Path.Before (walkedPath base (name :: below)) (walkedPath base (other :: behind)) := by
  unfold Path.Before
  rw [Path.components_walkedPath hbelow, Path.components_walkedPath hbehind]
  have hfirst : (Path.Component.name name.toList).Before (.name other.toList) :=
    Prod.Lex.right _ h
  exact List.Lex.append_left _ (.rel hfirst) _

/-! ## Sorting by name -/

section Sorted

variable {α : Type} {named other : List (String × α)}

/-- Named things sorted by name are in order. -/
theorem sortedByName_pairwise_le (named : List (String × α)) :
    (sortedByName named).Pairwise fun a b => a.1 ≤ b.1 := by
  induction named with
  | nil => simp [sortedByName]
  | cons first named ih =>
    obtain ⟨before, behind, hwithout, hwith, hbefore, hbehind⟩ := sortedByName_cons first named
    rw [hwithout] at ih
    obtain ⟨hfront, hback, hacross⟩ := List.pairwise_append.1 ih
    rw [hwith]
    refine List.pairwise_append.2 ⟨hfront, List.pairwise_cons.2 ⟨hbehind, hback⟩, ?_⟩
    intro entry hentry after hafter
    rcases List.mem_cons.1 hafter with rfl | hafter
    · exact (String.le_total _ _).resolve_right (hbefore entry hentry)
    · exact hacross entry hentry after hafter

/-- Sorting by name keeps the things. -/
theorem sortedByName_perm (named : List (String × α)) : (sortedByName named).Perm named :=
  List.mergeSort_perm _ _

/-- Things with different names that are sorted by name are in increasing order. -/
theorem sortedByName_pairwise_lt (h : (named.map Prod.fst).Nodup) :
    (sortedByName named).Pairwise fun a b => a.1 < b.1 := by
  have hdistinct : ((sortedByName named).map Prod.fst).Nodup :=
    ((sortedByName_perm named).map Prod.fst).nodup_iff.2 h
  refine ((sortedByName_pairwise_le named).and (List.pairwise_map.1 hdistinct)).imp ?_
  rintro a b ⟨hle, hne⟩
  exact String.not_le.1 fun hge => hne (String.le_antisymm hle hge)

/-- Sorting things with different names by name gives the same for all their orders. -/
theorem sortedByName_eq_of_perm (hperm : named.Perm other) (h : (named.map Prod.fst).Nodup) :
    sortedByName named = sortedByName other := by
  have hother : (other.map Prod.fst).Nodup := (hperm.map Prod.fst).nodup_iff.1 h
  refine List.Perm.eq_of_pairwise (fun a b _ _ hab hba => ?_) (sortedByName_pairwise_lt h)
    (sortedByName_pairwise_lt hother)
    ((sortedByName_perm named).trans (hperm.trans (sortedByName_perm other).symm))
  exact absurd (String.lt_trans hab hba) (String.lt_irrefl a.1)

end Sorted

/-! ## Listing entries in another order -/

/-- Trees that differ in nothing but the orders in which directories list their entries. -/
inductive Node.Relisted : Node → Node → Prop where
  /-- A tree as it is. -/
  | same (node : Node) : Relisted node node
  /-- A directory that lists its entries in another order. -/
  | reordered {entries entries' : List (String × Node)} (h : entries.Perm entries') :
    Relisted (.directory entries) (.directory entries')
  /-- A directory in which one entry is relisted. -/
  | inside {before behind : List (String × Node)} {name : String} {child child' : Node}
    (h : Relisted child child') : Relisted (.directory (before ++ (name, child) :: behind))
      (.directory (before ++ (name, child') :: behind))
  /-- One relisting after another. -/
  | trans {node middle other : Node} (h : Relisted node middle) (h' : Relisted middle other) :
    Relisted node other

namespace Node

/-- A relisted tree is well named when the tree is. -/
theorem Relisted.isWellNamed {node other : Node} (h : Relisted node other)
    (hnode : node.IsWellNamed) : other.IsWellNamed := by
  induction h with
  | same => exact hnode
  | reordered hperm =>
    cases hnode with
    | directory names distinct inner =>
      exact .directory (fun entry hentry => names entry (hperm.mem_iff.2 hentry))
        ((hperm.map Prod.fst).nodup_iff.1 distinct)
        fun entry hentry => inner entry (hperm.mem_iff.2 hentry)
  | @inside before behind name child child' _ ih =>
    cases hnode with
    | directory names distinct inner =>
      have hkeys : Members.keys (before ++ (name, child') :: behind) =
          Members.keys (before ++ (name, child) :: behind) := by simp [Members.keys]
      have hchild : child.IsWellNamed :=
        inner (name, child) (List.mem_append_right before List.mem_cons_self)
      refine .directory (fun entry hentry => ?_) (hkeys ▸ distinct) fun entry hentry => ?_
      · have hname : entry.1 ∈ Members.keys (before ++ (name, child) :: behind) :=
          hkeys ▸ List.mem_map_of_mem hentry
        obtain ⟨entry', hentry', heq⟩ := List.mem_map.1 hname
        exact heq ▸ names entry' hentry'
      · rcases List.mem_append.1 hentry with hbefore | hrest
        · exact inner entry (List.mem_append_left _ hbefore)
        · rcases List.mem_cons.1 hrest with rfl | hbehind
          · exact ih hchild
          · exact inner entry (List.mem_append_right before (List.mem_cons_of_mem _ hbehind))
  | trans _ _ ih ih' => exact ih' (ih hnode)

end Node

/-! ## What is found -/

namespace Catalog

section Order

variable {node other : Node} {base root path : String} {below : List String}
  {entries : List (String × Node)} {files : FileSystem}

/-- The paths that are found below a directory with well-formed names go through one of its
names. -/
theorem exists_cons_of_mem_foundBelow {name : String} (hname : FileSystem.IsFileName name)
    (h : node.IsWellNamed) (hpath : path ∈ foundBelow (Path.join base name) node) :
    ∃ below, path = walkedPath base (name :: below) ∧
      ∀ step ∈ name :: below, FileSystem.IsFileName step := by
  obtain ⟨below, content, mode, hat, rfl, -⟩ := (mem_foundBelow_iff h).1 hpath
  exact ⟨below, rfl, List.forall_mem_cons.2 ⟨hname, h.isFileName hat⟩⟩

/-- What is found below the entries of a directory has the names of the entries. -/
theorem nodup_names_found (h : (Members.keys entries).Nodup) (base : String) :
    ((entries.map fun entry =>
      (entry.1, foundBelow (Path.join base entry.1) entry.2)).map Prod.fst).Nodup := by
  rw [List.map_map]
  exact h

/-- What is found is in increasing order. -/
theorem foundBelow_pairwise (h : node.IsWellNamed) (base : String) :
    (foundBelow base node).Pairwise Path.Before := by
  induction h generalizing base with
  | @file content mode =>
    simp only [foundBelow, Node.walk, List.filter_singleton]
    cases isArtifactFile base (.file content mode) with
    | true => exact List.pairwise_singleton _ _
    | false => exact List.Pairwise.nil
  | link => simp [foundBelow, Node.walk, isArtifactFile, Node.isFile]
  | @directory entries names distinct inner ih =>
    have hentry {found : String × List String} (hfound : found ∈ sortedByName (entries.map
        fun entry => (entry.1, foundBelow (Path.join base entry.1) entry.2))) :
        ∃ entry ∈ entries, (entry.1, foundBelow (Path.join base entry.1) entry.2) = found :=
      List.mem_map.1 ((sortedByName_perm _).mem_iff.1 hfound)
    rw [foundBelow_directory]
    refine List.pairwise_flatMap.2 ⟨fun found hfound => ?_, ?_⟩
    · obtain ⟨entry, hmem, rfl⟩ := hentry hfound
      exact ih entry hmem _
    · refine (sortedByName_pairwise_lt (nodup_names_found distinct base)).imp_of_mem ?_
      intro found found' hfound hfound' hless path hpath path' hpath'
      obtain ⟨entry, hmem, rfl⟩ := hentry hfound
      obtain ⟨entry', hmem', rfl⟩ := hentry hfound'
      obtain ⟨below, rfl, hbelow⟩ :=
        exists_cons_of_mem_foundBelow (names entry hmem) (inner entry hmem) hpath
      obtain ⟨behind, rfl, hbehind⟩ :=
        exists_cons_of_mem_foundBelow (names entry' hmem') (inner entry' hmem') hpath'
      exact Path.before_walkedPath hbelow hbehind hless

/-- The same is found in a relisted tree. -/
theorem foundBelow_relisted (h : Node.Relisted node other) (hnode : node.IsWellNamed)
    (base : String) : foundBelow base other = foundBelow base node := by
  induction h generalizing base with
  | same => rfl
  | @reordered entries entries' hperm =>
    cases hnode with
    | directory names distinct inner =>
      rw [foundBelow_directory, foundBelow_directory,
        sortedByName_eq_of_perm (hperm.map _) (nodup_names_found distinct base)]
  | @inside before behind name child child' _ ih =>
    cases hnode with
    | directory names distinct inner =>
      have hchild : child.IsWellNamed :=
        inner (name, child) (List.mem_append_right before List.mem_cons_self)
      rw [foundBelow_directory, foundBelow_directory, List.map_append, List.map_append,
        List.map_cons, List.map_cons, ih hchild]
  | trans hfirst _ ih ih' => rw [ih' (hfirst.isWellNamed hnode), ih hnode]

/-- An artifact file of a tree: a regular file, not a link, whose name ends with `.json` with
something before it. -/
def IsArtifactAt (node : Node) (below : List String) : Prop :=
  (∃ content mode, node.at? below = some (.file content mode)) ∧
    ∃ stem, stem ≠ "" ∧ below.getLast? = some (stem ++ ".json")

/-- The extension of a path of a walk is that of its last name. -/
theorem extension?_walkedPath {last : String} (h : ∀ step ∈ below, FileSystem.IsFileName step)
    (hlast : below.getLast? = some last) (base : String) :
    Path.extension? (walkedPath base below) = Path.extensionOfName? last.toList := by
  have hname : Path.fileName? (walkedPath base below) = some last.toList := by
    unfold Path.fileName?
    rw [Path.components_walkedPath h, List.getLast?_append, List.getLast?_map, hlast]
    rfl
  rw [Path.extension?, hname, Option.bind_some]

/-- What is found below a directory are its artifact files. -/
theorem mem_foundBelow_iff_isArtifactAt (h : (Node.directory entries).IsWellNamed) :
    path ∈ foundBelow base (.directory entries) ↔
      ∃ below, IsArtifactAt (.directory entries) below ∧ path = walkedPath base below := by
  have hextension {below : List String} {content : ByteArray} {mode : Nat}
      (hat : (Node.directory entries).at? below = some (.file content mode)) :
      Path.extension? (walkedPath base below) = some artifactExtension ↔
        ∃ stem, stem ≠ "" ∧ below.getLast? = some (stem ++ ".json") := by
    obtain ⟨last, hlast⟩ : ∃ last, below.getLast? = some last := by
      cases below with
      | nil => cases hat
      | cons name rest => exact ⟨_, List.getLast?_cons⟩
    rw [extension?_walkedPath (h.isFileName hat) hlast, Path.extensionOfName?_artifact_iff, hlast]
    simp
  rw [mem_foundBelow_iff h]
  constructor
  · rintro ⟨below, content, mode, hat, rfl, hpath⟩
    exact ⟨below, ⟨⟨content, mode, hat⟩, (hextension hat).1 hpath⟩, rfl⟩
  · rintro ⟨below, ⟨⟨content, mode, hat⟩, hname⟩, rfl⟩
    exact ⟨below, content, mode, hat, rfl, (hextension hat).2 hname⟩

/-- At a path that leads to a directory the artifact files below the directory are found, each at
one path of its own, in increasing order of the paths compared component by component. Listing the
entries of any directories in another order changes nothing. -/
theorem discover_in_order (hroot : files.node true root = .ok (.directory entries))
    (hnames : (Node.directory entries).IsWellNamed) :
    ∃ found, discover files root = .ok found ∧ found.Pairwise Path.Before ∧ found.Nodup ∧
      (∀ path, path ∈ found ↔
        ∃ below, IsArtifactAt (.directory entries) below ∧ path = walkedPath root below) ∧
      (∀ below behind, IsArtifactAt (.directory entries) below →
        IsArtifactAt (.directory entries) behind →
        walkedPath root below = walkedPath root behind → below = behind) ∧
      ∀ (relisted : FileSystem) (entries' : List (String × Node)),
        relisted.node true root = .ok (.directory entries') →
        Node.Relisted (.directory entries) (.directory entries') →
        discover relisted root = .ok found := by
  have hordered := foundBelow_pairwise hnames root
  refine ⟨_, discover_of_node hroot, hordered, hordered.imp Path.Before.ne,
    fun path => mem_foundBelow_iff_isArtifactAt hnames, ?_, ?_⟩
  · rintro below behind ⟨⟨_, _, hbelow⟩, -⟩ ⟨⟨_, _, hbehind⟩, -⟩ heq
    exact Path.eq_of_components_walkedPath (hnames.isFileName hbelow) (hnames.isFileName hbehind)
      (congrArg Path.components heq)
  · intro relisted entries' hroot' hrelisted
    rw [discover_of_node hroot', foundBelow_relisted hrelisted hnames]

/-- A directory with a file that has the extension, a directory of such a file, a link to one, and a
name that is nothing but the extension. -/
def mixedEntries : List (String × Node) :=
  [("a.json", .file .empty FileSystem.newFileMode),
    ("a", .directory [("x.json", .file .empty FileSystem.newFileMode)]),
    ("b.json", .link "a.json"), (".json", .file .empty FileSystem.newFileMode)]

/-- The files of a project that has this directory, listed in some order. -/
def mixedFiles (listed : List (String × Node)) : FileSystem :=
  ⟨.directory [("programs", .directory listed)], []⟩

/-- In either order of its entries the two artifact files of this directory are found, and the link
is not. -/
theorem discover_in_order_mixedFiles :
    ∃ found, discover (mixedFiles mixedEntries) "programs" = .ok found ∧
      discover (mixedFiles mixedEntries.reverse) "programs" = .ok found ∧
      "programs/a/x.json" ∈ found ∧ "programs/a.json" ∈ found ∧ "programs/b.json" ∉ found := by
  have hinner : (Node.directory [("x.json", .file .empty FileSystem.newFileMode)]).IsWellNamed :=
    .directory (by decide) (by decide) (List.forall_mem_singleton.2 .file)
  have hnames : (Node.directory mixedEntries).IsWellNamed :=
    .directory (by decide) (by decide) (List.forall_mem_cons.2 ⟨.file, List.forall_mem_cons.2
      ⟨hinner, List.forall_mem_cons.2 ⟨.link, List.forall_mem_singleton.2 .file⟩⟩⟩)
  have hroot : (mixedFiles mixedEntries).node true "programs" = .ok (.directory mixedEntries) := rfl
  obtain ⟨found, hfound, -, -, hmem, -, hrelisted⟩ := discover_in_order hroot hnames
  refine ⟨found, hfound, hrelisted (mixedFiles mixedEntries.reverse) _ rfl
    (.reordered (List.reverse_perm _).symm), ?_, ?_, fun hlink => ?_⟩
  · exact (hmem _).2 ⟨["a", "x.json"], ⟨⟨_, _, rfl⟩, "x", by decide, rfl⟩, by decide⟩
  · exact (hmem _).2 ⟨["a.json"], ⟨⟨_, _, rfl⟩, "a", by decide, rfl⟩, by decide⟩
  · obtain ⟨below, ⟨⟨content, mode, hat⟩, -⟩, hpath⟩ := (hmem _).1 hlink
    have hwalked : walkedPath "programs" ["b.json"] = walkedPath "programs" below := hpath
    obtain rfl := Path.eq_of_components_walkedPath (by decide) (hnames.isFileName hat)
      (congrArg Path.components hwalked)
    cases hat

end Order

end Catalog

end ProgramConnector
