import ProgramConnector.Proofs.Catalog.BarePrograms

/-!
# When the configuration file is no artifact

A configuration file may stand among the artifact files of a directory. It is told apart from them
by its path: it is left out exactly when the components of its path are those of the directory and
the names below it. Spelled in any other way that leads to the same file, it is loaded as an
artifact.
-/

namespace ProgramConnector

namespace Path

open FileSystem Text

/-- The piece of a component, unless the component is the start of a path. -/
def Component.piece? : Component → Option (List Char)
  | .root => none
  | .here => none
  | .up => some ['.', '.']
  | .name text => some text

section Components

variable {path other : String}

/-- The pieces of a path that lead somewhere are those of its components. -/
theorem heldPieces_eq_filterMap (path : String) :
    heldPieces path.toList = (components path).filterMap Component.piece? := by
  have hpiece : Component.piece? ∘ componentOf = some := by
    funext piece
    change (componentOf piece).piece? = some piece
    unfold componentOf
    split_ifs with hup
    · exact congrArg some (beq_iff_eq.1 hup).symm
    · rfl
  have hbody : (((pieces path).filter fun piece => !isVoid piece).map componentOf).filterMap
      Component.piece? = heldPieces path.toList := by
    rw [List.filterMap_map, hpiece, List.filterMap_some]
    rfl
  unfold components
  split_ifs
  · exact hbody.symm
  · exact hbody.symm
  · exact hbody.symm

/-- A path is absolute when its first component is the root. -/
theorem isAbsolute_eq_head? (path : String) :
    isAbsolute path = ((components path).head? == some .root) := by
  have hbody : (((pieces path).filter fun piece => !isVoid piece).map componentOf).head? ≠
      some .root := by
    intro hhead
    obtain ⟨piece, -, hpiece⟩ := List.mem_map.1 (List.mem_of_head? hhead)
    unfold componentOf at hpiece
    split_ifs at hpiece
  unfold components
  split_ifs with habsolute hdot
  · simpa using habsolute
  · have hhere : (Component.here == Component.root) = false := rfl
    simpa [hhere] using habsolute
  · rw [beq_eq_false_iff_ne.2 hbody]
    simpa using habsolute

end Components

end Path

namespace FileSystem

open ProgramConnector.Path

section Spellings

variable {files : FileSystem} {path other directory : String}

/-- Paths with the same components have the same steps that lead somewhere. -/
theorem leadingSteps_of_components (h : components path = components other) :
    leadingSteps path = leadingSteps other := by
  unfold leadingSteps
  rw [heldPieces_eq_filterMap, heldPieces_eq_filterMap, h]

/-- Paths with the same components are taken from the same place. -/
theorem startOf_of_components (h : components path = components other) (here : List String) :
    startOf here path = startOf here other := by
  unfold startOf
  rw [isAbsolute_eq_head?, isAbsolute_eq_head?, h]

end Spellings

/-- A path that is spelled like that of a file below a directory leads to that file, if anywhere. -/
theorem location_eq_of_components {files : FileSystem} {path directory : String}
    {names location target : List String} {left : Nat} {entries : List (String × Node)}
    {content : ByteArray} {mode : Nat} (hnames : ∀ name ∈ names, IsFileName name)
    (hlocation : files.root.at? location = some (.directory entries))
    (harrives : Arrives files.root linkLimit (startOf files.current directory)
      (leadingSteps directory) left location)
    (hfile : (Node.directory entries).at? names = some (.file content mode))
    (hsame : components path = components (walkedPath directory names))
    (htarget : files.resolve true path = .ok (.taken target)) : target = location ++ names := by
  have hresolve := resolveSteps_walkedPath hnames hlocation harrives hfile
  have hstart : startOf files.current path = startOf files.current directory := by
    rw [startOf_of_components hsame, startOf_walkedPath hnames]
  have hleading := leadingSteps_of_components hsame
  unfold resolve at htarget
  split at htarget
  · exact nomatch htarget
  · rw [hstart] at htarget
    rcases steps_eq path with hsteps | hsteps
    · have hthere := hresolve []
      rw [List.append_nil, ← hleading, ← hsteps, htarget] at hthere
      exact Place.taken.inj (Except.ok.inj hthere)
    · have hnowhere := hresolve ["."]
      rw [← hleading, ← hsteps, htarget] at hnowhere
      exact nomatch hnowhere

end FileSystem

namespace Catalog

open FileSystem

/-- The path of a configuration file has the components of a directory and of names below it. -/
def IsSpelled (directory configuration : String) (below : List String) : Prop :=
  Path.components configuration =
    Path.components directory ++ below.map fun name => .name name.toList

/-- A configuration file that stands among the artifact files of a directory: its path leads to a
regular file below the directory that has the extension of artifact files. -/
structure IsAmongArtifacts (files : FileSystem) (directory configuration : String)
    (entries : List (String × Node)) (below : List String) : Prop where
  /-- The path of the directory leads to the directory, and that of the configuration file to a
  place below it. -/
  leads : ∃ location, files.resolve true directory = .ok (.taken location) ∧
    files.root.at? location = some (.directory entries) ∧
    files.resolve true configuration = .ok (.taken (location ++ below))
  /-- Names are those of files. -/
  named : (Node.directory entries).IsWellNamed
  /-- A regular file is there. -/
  file : ∃ content mode, (Node.directory entries).at? below = some (.file content mode)
  /-- A walk from the directory meets it with the extension of artifact files. -/
  artifact : Path.extension? (walkedPath directory below) = some artifactExtension

section Exclusion

variable {files : FileSystem} {directory configuration : String} {below names : List String}
  {entries : List (String × Node)} {content : ByteArray} {mode : Nat}

/-- Nothing is below a file. -/
theorem eq_of_file_of_isPrefix {other : Node}
    (hfile : (Node.directory entries).at? below = some (.file content mode))
    (hat : (Node.directory entries).at? names = some other) (h : below <+: names) :
    names = below := by
  obtain ⟨more, rfl⟩ := h
  rw [Node.at?_append, hfile] at hat
  cases more with
  | nil => exact List.append_nil below
  | cons name rest => exact nomatch hat

/-- The files that remain without a configuration file that is spelled like one of them are those of
the tree without it. -/
theorem loadedFiles_of_isSpelled (h : IsAmongArtifacts files directory configuration entries below)
    (hspelled : IsSpelled directory configuration below) :
    loadedFiles (some configuration) (foundBelow directory (.directory entries)) =
      foundBelow directory ((Node.directory entries).erase below) := by
  obtain ⟨content, mode, hfile⟩ := h.file
  have hbelow := h.named.isFileName hfile
  have hne : below ≠ [] := by
    rintro rfl
    exact nomatch hfile
  have hcomponents : Path.components (walkedPath directory below) =
      Path.components configuration := by
    rw [Path.components_walkedPath hbelow, hspelled]
  rw [foundBelow_erase h.named hne hbelow]
  refine List.filter_congr fun path hpath => congrArg not ?_
  obtain ⟨names, _, _, hat, rfl, -⟩ := (mem_foundBelow_iff h.named).1 hpath
  have hnames := h.named.isFileName hat
  rw [Bool.eq_iff_iff, isWithin_walkedPath_iff hbelow hnames]
  change Path.same (walkedPath directory names) configuration = true ↔ below <+: names
  rw [Path.same, ← hcomponents, beq_iff_eq]
  constructor
  · intro hsame
    obtain rfl := Path.eq_of_components_walkedPath hnames hbelow hsame
    exact List.prefix_refl names
  · intro hprefix
    rw [eq_of_file_of_isPrefix hfile hat hprefix]

/-- All files remain when a configuration file among them is not spelled like it. -/
theorem loadedFiles_of_not_isSpelled
    (h : IsAmongArtifacts files directory configuration entries below)
    (hspelled : ¬ IsSpelled directory configuration below) :
    loadedFiles (some configuration) (foundBelow directory (.directory entries)) =
      foundBelow directory (.directory entries) := by
  obtain ⟨location, hdirectory, hnode, hconfiguration⟩ := h.leads
  obtain ⟨content, mode, hfile⟩ := h.file
  refine List.filter_eq_self.2 fun path hpath => ?_
  obtain ⟨names, _, _, hat, rfl, -⟩ := (mem_foundBelow_iff h.named).1 hpath
  have hnames := h.named.isFileName hat
  have hother : Path.same (walkedPath directory names) configuration = false := by
    rw [← Bool.not_eq_true, Path.same, beq_iff_eq]
    intro hsame
    obtain ⟨left, harrives⟩ := exists_arrives_of_resolve hdirectory hnode
    have htarget := location_eq_of_components hnames hnode harrives hat hsame.symm hconfiguration
    have hbelow : below = names := List.append_cancel_left htarget
    refine hspelled ?_
    rw [IsSpelled, ← hsame, Path.components_walkedPath hnames, hbelow]
  exact congrArg not hother

/-- A configuration file that stands among the artifact files of a directory is no artifact exactly
when its path has the components of the directory and of the names below it. Then what is loaded is
what the directory has without the file; spelled in another way, the file is loaded with all
others. -/
theorem load_of_isAmongArtifacts
    (h : IsAmongArtifacts files directory configuration entries below) :
    (∃ loaded, artifactFiles files directory (some configuration) = .ok loaded ∧
      (walkedPath directory below ∉ loaded ↔ IsSpelled directory configuration below)) ∧
    (IsSpelled directory configuration below →
      load files directory (some configuration) =
        loadFrom (readProgram files (configurationsAt files (some configuration)))
          (foundBelow directory ((Node.directory entries).erase below))) ∧
    (¬ IsSpelled directory configuration below →
      load files directory (some configuration) =
        loadFrom (readProgram files (configurationsAt files (some configuration)))
          (foundBelow directory (.directory entries))) := by
  obtain ⟨location, hdirectory, hnode, -⟩ := h.leads
  obtain ⟨content, mode, hfile⟩ := h.file
  have hbelow := h.named.isFileName hfile
  have hentries : files.node true directory = .ok (.directory entries) :=
    node_eq_ok_iff.2 ⟨location, hdirectory, hnode⟩
  have hfound := discover_of_node hentries
  have hload : load files directory (some configuration) =
      loadFrom (readProgram files (configurationsAt files (some configuration)))
        (loadedFiles (some configuration) (foundBelow directory (.directory entries))) :=
    load_eq (isDirectory_of_node hentries) hfound
  have hpaths : artifactFiles files directory (some configuration) =
      .ok (loadedFiles (some configuration) (foundBelow directory (.directory entries))) := by
    unfold artifactFiles
    rw [hfound]
    rfl
  refine ⟨⟨_, hpaths, ?_⟩, fun hspelled => ?_, fun hspelled => ?_⟩
  · constructor
    · intro hout
      by_contra hspelled
      rw [loadedFiles_of_not_isSpelled h hspelled, mem_foundBelow_iff h.named] at hout
      exact hout ⟨below, content, mode, hfile, rfl, h.artifact⟩
    · intro hspelled hin
      have hsame : Path.same (walkedPath directory below) configuration = true := by
        rw [Path.same, Path.components_walkedPath hbelow, hspelled, beq_self_eq_true]
      have hother := (List.mem_filter.1 hin).2
      simp [isConfigurationPath, hsame] at hother
  · rw [hload, loadedFiles_of_isSpelled h hspelled]
  · rw [hload, loadedFiles_of_not_isSpelled h hspelled]

/-- An empty configuration file in the directory of programs. -/
def configuredEntries : List (String × Node) :=
  [("configuration.json", .file "\x7b\x7d".toUTF8 newFileMode)]

/-- The files of a project that has nothing else. -/
def configuredFiles : FileSystem := ⟨.directory [("programs", .directory configuredEntries)], []⟩

/-- With a dot in front of its path, that file is loaded as an artifact, which has no title. -/
theorem load_of_isAmongArtifacts_dotted :
    IsAmongArtifacts configuredFiles "programs" "./programs/configuration.json" configuredEntries
      ["configuration.json"] ∧
    ¬ IsSpelled "programs" "./programs/configuration.json" ["configuration.json"] ∧
    (∃ loaded,
      artifactFiles configuredFiles "programs" (some "./programs/configuration.json") = .ok loaded ∧
      "programs/configuration.json" ∈ loaded) ∧
    load configuredFiles "programs" (some "./programs/configuration.json") =
      .error (.missingField "title" "programs/configuration.json") := by
  have hname : IsFileName "configuration.json" := by decide
  have hnamed : (Node.directory configuredEntries).IsWellNamed :=
    .directory (List.forall_mem_singleton.2 hname) (by decide) (List.forall_mem_singleton.2 .file)
  have hamong : IsAmongArtifacts configuredFiles "programs" "./programs/configuration.json"
      configuredEntries ["configuration.json"] :=
    ⟨⟨["programs"], by rfl, by rfl, by rfl⟩, hnamed, ⟨_, _, rfl⟩, by decide⟩
  have hspelled : ¬ IsSpelled "programs" "./programs/configuration.json"
      ["configuration.json"] := by
    unfold IsSpelled
    decide
  obtain ⟨⟨loaded, hloaded, hiff⟩, -⟩ := load_of_isAmongArtifacts hamong
  have hin : "programs/configuration.json" ∈ loaded := by
    by_contra hout
    exact hspelled (hiff.1 hout)
  have hfailure : failure? (load configuredFiles "programs"
      (some "./programs/configuration.json")) =
      some (.missingField "title" "programs/configuration.json") := by decide +kernel
  exact ⟨hamong, hspelled, ⟨loaded, hloaded, hin⟩, eq_error_of_failure? hfailure⟩

end Exclusion

end Catalog

end ProgramConnector
