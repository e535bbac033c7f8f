import ProgramConnector.Catalog.Load
import ProgramConnector.Proofs.Files.Writing

/-!
# Finding artifact files again

A directory without entries, and a file whose name does not have the extension of artifact files,
are not found. So the artifact files of a directory stay the same, in the same order, when such
things are put below it, wherever that is and whatever was sorted around them.
-/

namespace ProgramConnector

section Sorting

variable {α β : Type}

/-- Something made from every named thing can be made before they are sorted or after. -/
theorem sortedByName_map (f : String → α → β) (named : List (String × α)) :
    sortedByName (named.map fun entry => (entry.1, f entry.1 entry.2)) =
      (sortedByName named).map fun entry => (entry.1, f entry.1 entry.2) := by
  unfold sortedByName
  rw [List.map_mergeSort]
  exact fun _ _ _ _ => rfl

/-- Sorted things are in order, and the first of several things goes in front of those that are not
before it. -/
theorem sortedByName_cons (first : String × α) (named : List (String × α)) :
    ∃ before behind, sortedByName named = before ++ behind ∧
      sortedByName (first :: named) = before ++ first :: behind ∧
      (∀ entry ∈ before, ¬ first.1 ≤ entry.1) ∧ ∀ entry ∈ behind, first.1 ≤ entry.1 := by
  have htrans (a b c : String × α) (hab : decide (a.1 ≤ b.1) = true)
      (hbc : decide (b.1 ≤ c.1) = true) : decide (a.1 ≤ c.1) = true :=
    decide_eq_true (String.le_trans (of_decide_eq_true hab) (of_decide_eq_true hbc))
  have htotal (a b : String × α) : (decide (a.1 ≤ b.1) || decide (b.1 ≤ a.1)) = true := by
    rcases String.le_total a.1 b.1 with hle | hle
    · rw [decide_eq_true hle, Bool.true_or]
    · rw [decide_eq_true hle, Bool.or_true]
  obtain ⟨before, behind, hwith, hwithout, hbefore⟩ :=
    List.mergeSort_cons htrans htotal first named
  have hsorted := List.pairwise_mergeSort htrans htotal (first :: named)
  rw [hwith] at hsorted
  refine ⟨before, behind, hwithout, hwith, fun entry hentry => ?_, fun entry hentry => ?_⟩
  · have hfalse := hbefore entry hentry
    rw [Bool.not_eq_true'] at hfalse
    exact of_decide_eq_false hfalse
  · have hordered := (List.pairwise_cons.1 (List.pairwise_append.1 hsorted).2.1).1 entry hentry
    exact of_decide_eq_true hordered

/-- Things left out before sorting are those left out of the sorted ones. -/
theorem sortedByName_filter (p : String × α → Bool) (named : List (String × α)) :
    sortedByName (named.filter p) = (sortedByName named).filter p := by
  induction named with
  | nil => simp [sortedByName]
  | cons first named ih =>
    obtain ⟨before, behind, hwithout, hwith, hbefore, hbehind⟩ := sortedByName_cons first named
    rw [hwith, List.filter_append]
    rw [hwithout, List.filter_append] at ih
    cases hfirst : p first with
    | false =>
      have hout : ¬ p first = true := by simp [hfirst]
      rw [List.filter_cons_of_neg hout, List.filter_cons_of_neg hout, ih]
    | true =>
      rw [List.filter_cons_of_pos hfirst, List.filter_cons_of_pos hfirst]
      obtain ⟨before', behind', hwithout', hwith', hbefore', hbehind'⟩ :=
        sortedByName_cons first (named.filter p)
      -- Both lists are split where names stop being before that of the first thing.
      have hsplit : before' ++ behind' = before.filter p ++ behind.filter p := hwithout' ▸ ih
      have hfront {xs ys : List (String × α)} (hxs : ∀ entry ∈ xs, ¬ first.1 ≤ entry.1)
          (hys : ∀ entry ∈ ys, first.1 ≤ entry.1) :
          (xs ++ ys).filter (fun entry => !decide (first.1 ≤ entry.1)) = xs := by
        have hkept : xs.filter (fun entry => !decide (first.1 ≤ entry.1)) = xs :=
          List.filter_eq_self.2 fun entry hentry => by rw [decide_eq_false (hxs entry hentry)]; rfl
        have hdropped : ys.filter (fun entry => !decide (first.1 ≤ entry.1)) = [] :=
          List.filter_eq_nil_iff.2 fun entry hentry => by
            rw [decide_eq_true (hys entry hentry)]
            exact Bool.false_ne_true
        rw [List.filter_append, hkept, hdropped, List.append_nil]
      have hbeforeFiltered : ∀ entry ∈ before.filter p, ¬ first.1 ≤ entry.1 :=
        fun entry hentry => hbefore entry (List.mem_of_mem_filter hentry)
      have hbehindFiltered : ∀ entry ∈ behind.filter p, first.1 ≤ entry.1 :=
        fun entry hentry => hbehind entry (List.mem_of_mem_filter hentry)
      have heq : before' = before.filter p := by
        rw [← hfront hbefore' hbehind', hsplit, hfront hbeforeFiltered hbehindFiltered]
      subst heq
      rw [hwith', List.append_cancel_left hsplit]

/-- A named list without elements, put behind others, adds nothing to all lists together. -/
theorem flatMap_sortedByName_append (name : String) (named : List (String × List β)) :
    (sortedByName (named ++ [(name, [])])).flatMap Prod.snd =
      (sortedByName named).flatMap Prod.snd := by
  have hdrop (named : List (String × List β)) :
      named.flatMap Prod.snd = (named.filter fun entry => !entry.2.isEmpty).flatMap Prod.snd := by
    induction named with
    | nil => rfl
    | cons first named ih =>
      obtain ⟨key, list⟩ := first
      cases list with
      | nil => simpa using ih
      | cons x xs => simp [ih]
  rw [hdrop, ← sortedByName_filter, List.filter_append, hdrop (sortedByName named),
    ← sortedByName_filter]
  simp

end Sorting

namespace Catalog

open FileSystem

/-- The artifact files at and below a node at a path. -/
def foundBelow (path : String) (node : Node) : List String :=
  ((node.walk path).filter fun met => isArtifactFile met.1 met.2).map Prod.fst

/-- A name that a file can have without being an artifact file, in any directory. -/
structure IsQuietName (name : String) : Prop where
  /-- The name is a single step of a path. -/
  noSlash : '/' ∉ name.toList
  /-- The name leads somewhere. -/
  nonvoid : Path.isVoid name.toList = false
  /-- The name does not lead up. -/
  rises : name.toList ≠ ['.', '.']
  /-- The name does not have the extension of artifact files. -/
  extension : Path.extensionOfName? name.toList ≠ some artifactExtension

section Below

variable {path name : String} {entries : List (String × Node)} {new root : Node}

/-- A directory without entries holds no artifact file. -/
theorem foundBelow_empty (path : String) : foundBelow path (.directory []) = [] := by
  simp [foundBelow, Node.walk, Node.walkEntries, sortedByName, isArtifactFile, Node.isFile]

/-- A file with a quiet name is no artifact file. -/
theorem foundBelow_of_isFile {node : Node} (hname : IsQuietName name) (hnode : node.isFile = true)
    (base : String) : foundBelow (Path.join base name) node = [] := by
  have hextension : Path.extension? (Path.join base name) ≠ some artifactExtension := by
    rw [Path.extension?, Path.fileName?_join base hname.noSlash hname.nonvoid hname.rises]
    exact hname.extension
  cases node with
  | directory entries => exact absurd hnode Bool.false_ne_true
  | file content mode => simp [foundBelow, Node.walk, isArtifactFile, hextension]
  | link target => exact absurd hnode Bool.false_ne_true

/-- The artifact files of a directory are those of its entries, sorted by name. -/
theorem foundBelow_directory (path : String) (entries : List (String × Node)) :
    foundBelow path (.directory entries) = (sortedByName (entries.map fun entry =>
      (entry.1, foundBelow (Path.join path entry.1) entry.2))).flatMap Prod.snd := by
  have hentries : Node.walkEntries path entries =
      entries.map fun entry => (entry.1, entry.2.walk (Path.join path entry.1)) := by
    induction entries with
    | nil => rfl
    | cons entry rest ih =>
      obtain ⟨name, node⟩ := entry
      rw [Node.walkEntries, ih]
      rfl
  have hself : isArtifactFile path (.directory entries) = false := rfl
  unfold foundBelow
  rw [Node.walk, hentries, List.filter_cons_of_neg (by simp [hself]), List.filter_flatMap,
    List.map_flatMap, sortedByName_map (fun name node => Node.walk (Path.join path name) node),
    sortedByName_map (fun name node => ((Node.walk (Path.join path name) node).filter fun met =>
      isArtifactFile met.1 met.2).map Prod.fst), List.flatMap_map, List.flatMap_map]

/-- What is put under a name of a directory does not change what is found when nothing is found at
the name, before and after. -/
theorem foundBelow_put_entry (hnew : foundBelow (Path.join path name) new = [])
    (hold : ∀ node, Members.find? name entries = some node →
      foundBelow (Path.join path name) node = []) :
    foundBelow path (.directory (Members.put name new entries)) =
      foundBelow path (.directory entries) := by
  rw [foundBelow_directory, foundBelow_directory]
  let f (name : String) (node : Node) : List String := foundBelow (Path.join path name) node
  cases hfind : Members.find? name entries with
  | none =>
    rw [Members.put_of_find?_eq_none hfind, List.map_append, List.map_singleton, hnew]
    exact flatMap_sortedByName_append name _
  | some node =>
    have hsame : f name new = f name node := hnew.trans (hold node hfind).symm
    rw [Members.map_put (f := f) hfind hsame]

/-- What is put deep below a directory does not change what is found when nothing is found at its
name, before and after. -/
theorem foundBelow_put {above : List String} (habove : root.at? above = some (.directory entries))
    (hnew : ∀ base, foundBelow (Path.join base name) new = [])
    (hold : ∀ node, root.at? (above ++ [name]) = some node →
      ∀ base, foundBelow (Path.join base name) node = []) :
    foundBelow path (Node.put new (above ++ [name]) root) = foundBelow path root := by
  induction above generalizing root path with
  | nil =>
    cases habove
    refine foundBelow_put_entry (hnew path) fun node hnode => hold node ?_ path
    simp [Node.at?, hnode]
  | cons step above ih =>
    cases root with
    | directory inner =>
      obtain ⟨child, hchild, hrest⟩ := Option.bind_eq_some_iff.1 habove
      have hbelow : ∀ base, foundBelow base (Node.put new (above ++ [name]) child) =
          foundBelow base child := by
        refine fun base => ih hrest fun node hnode => hold node ?_
        simp [Node.at?, hchild, hnode]
      let f (name : String) (node : Node) : List String := foundBelow (Path.join path name) node
      have hsame : f step (Node.put new (above ++ [name]) child) = f step child := hbelow _
      rw [List.cons_append, Node.put, hchild, Option.getD_some, foundBelow_directory,
        foundBelow_directory, Members.map_put (f := f) hchild hsame]
    | file content mode => simp [Node.at?] at habove
    | link target => simp [Node.at?] at habove

/-- What is put where a directory has room for it changes what is found in no directory, when
nothing is found there before and after. -/
theorem foundBelow_put_of_hasRoom {location directory : List String} (hroom : root.HasRoom location)
    (hnew : ∀ name ∈ location.getLast?, ∀ base, foundBelow (Path.join base name) new = [])
    (hold : ∀ name ∈ location.getLast?, ∀ node, root.at? location = some node →
      ∀ base, foundBelow (Path.join base name) node = [])
    (hdirectory : root.at? directory = some (.directory entries)) :
    ∃ entries', (Node.put new location root).at? directory = some (.directory entries') ∧
      ∀ path, foundBelow path (.directory entries') = foundBelow path (.directory entries) := by
  obtain ⟨above, name, siblings, rfl, habove⟩ := hroom.directory
  have hlast : name ∈ (above ++ [name]).getLast? := by simp
  by_cases hbelow : directory <+: above ++ [name]
  · obtain ⟨rest, hrest⟩ := hbelow
    rcases List.eq_nil_or_concat rest with rfl | ⟨rest, last, rfl⟩
    · -- The directory is not itself replaced, since only a file is.
      rw [List.append_nil] at hrest
      rw [hrest] at hdirectory
      exact absurd (hroom.bare (.directory entries) hdirectory) Bool.false_ne_true
    · rw [List.concat_eq_append, ← List.append_assoc] at hrest
      obtain ⟨rfl, hname⟩ := List.append_inj' hrest rfl
      cases hname
      rw [Node.at?_append, hdirectory, Option.bind_some] at habove
      have hput : (Node.put new (directory ++ rest ++ [name]) root).at? directory =
          some (Node.put new (rest ++ [name]) (.directory entries)) := by
        rw [List.append_assoc]
        exact Node.at?_put_above hdirectory
      obtain ⟨entries', hentries'⟩ : ∃ entries',
          Node.put new (rest ++ [name]) (.directory entries) = .directory entries' := by
        cases rest with
        | nil => exact ⟨_, rfl⟩
        | cons step rest => exact ⟨_, rfl⟩
      refine ⟨entries', hput.trans (congrArg some hentries'), fun path => ?_⟩
      rw [← hentries']
      refine foundBelow_put habove (hnew name hlast) fun node hnode => hold name hlast node ?_
      rw [List.append_assoc, Node.at?_append, hdirectory]
      exact hnode
  · by_cases habove' : above ++ [name] <+: directory
    · obtain ⟨rest, rfl⟩ := habove'
      cases rest with
      | nil => exact absurd (by simp) hbelow
      | cons step rest =>
        obtain ⟨inner, hinner⟩ := Node.at?_of_append hdirectory
        exact absurd (hroom.bare (.directory inner) hinner) Bool.false_ne_true
    · exact ⟨entries, (Node.at?_put_apart habove habove' hbelow).trans hdirectory, fun _ => rfl⟩

end Below

section Discovery

variable {made written : List String → Prop} {files later : FileSystem} {path : String}
  {location : List String} {entries : List (String × Node)}

/-- The artifact files of a directory are those found below it. -/
theorem discover_eq (h : files.IsPlain) (hpath : files.resolve true path = .ok (.taken location))
    (hnode : files.root.at? location = some (.directory entries)) :
    discover files path = .ok (foundBelow path (.directory entries)) := by
  have hresolve : files.resolve false path = .ok (.taken location) :=
    h.resolve_eq_ok_iff.2 (h.resolve_eq_ok_iff.1 hpath)
  unfold discover FileSystem.walk
  rw [node_eq_ok_iff.2 ⟨location, hresolve, hnode⟩]
  rfl

/-- A change with a quiet name changes what is found in no directory. -/
theorem foundBelow_of_change (h : Change made written files later)
    (hquiet : ∀ location, written location → ∀ name ∈ location.getLast?, IsQuietName name)
    (hnode : files.root.at? location = some (.directory entries)) :
    ∃ entries', later.root.at? location = some (.directory entries') ∧
      ∀ path, foundBelow path (.directory entries') = foundBelow path (.directory entries) := by
  cases h with
  | make room free allowed =>
    have hfree := Node.entryAt?_eq_none_iff.1 free
    exact foundBelow_put_of_hasRoom room (fun _ _ _ => foundBelow_empty _)
      (fun _ _ _ hold => nomatch hfree.symm.trans hold) hnode
  | write room allowed =>
    exact foundBelow_put_of_hasRoom room
      (fun name hname => foundBelow_of_isFile (hquiet _ allowed name hname) rfl)
      (fun name hname node hold => foundBelow_of_isFile (hquiet _ allowed name hname)
        (room.bare node hold)) hnode

/-- After changes with quiet names, the artifact files of a directory are the same as before. -/
theorem discover_of_changes (h : Changes made written files later) (hplain : files.IsPlain)
    (hquiet : ∀ location, written location → ∀ name ∈ location.getLast?, IsQuietName name)
    (hdirectory : files.isDirectory path = true) : discover later path = discover files path := by
  obtain ⟨location, hresolve, hentry⟩ := isDirectory_iff.1 hdirectory
  obtain ⟨entries, hnode⟩ := Node.entryAt?_eq_directory_iff.1 hentry
  have hfound : ∃ entries', later.root.at? location = some (.directory entries') ∧
      ∀ path, foundBelow path (.directory entries') = foundBelow path (.directory entries) := by
    induction h with
    | refl => exact ⟨entries, hnode, fun _ => rfl⟩
    | tail _ hchange ih =>
      obtain ⟨between, hbetween, hsame⟩ := ih
      obtain ⟨entries', hentries', hsame'⟩ := foundBelow_of_change hchange hquiet hbetween
      exact ⟨entries', hentries', fun path => (hsame' path).trans (hsame path)⟩
  obtain ⟨entries', hentries', hsame⟩ := hfound
  rw [discover_eq hplain hresolve hnode,
    discover_eq (h.isPlain hplain) (h.resolve_taken hplain hresolve true) hentries', hsame]

end Discovery

end Catalog

end ProgramConnector
