import ProgramConnector.Proofs.Catalog.BarePrograms
import ProgramConnector.Proofs.Project.UpdateEffect
import ProgramConnector.Proofs.Wrapper.CommentRemoval

/-!
# The configuration is confined to comments

What stands at the configuration file, if anything, has no say in whether a connector is generated
nor in the failure if it is not. Of the connector that is generated it decides the comments of the
functions alone, and so do the options.
-/

namespace ProgramConnector

open FileSystem

namespace Catalog

/-- Two file systems that have the same artifacts: the directory of the artifacts is missing in
both, or it is there in both with the same tree, but for what stands at one place below it. Without
names that lead to such a place the trees are the same. -/
inductive SameBesides (files other : FileSystem) (directory : String) (below : List String) :
    Prop where
  /-- There is no directory. -/
  | missing (absent : files.isDirectory directory = false)
    (absent' : other.isDirectory directory = false)
  /-- There are directories, whose trees are the same once the place is erased. -/
  | trees {entries entries' : List (String × Node)}
    (node : files.node true directory = .ok (.directory entries))
    (node' : other.node true directory = .ok (.directory entries'))
    (named : (Node.directory entries).IsWellNamed) (named' : (Node.directory entries').IsWellNamed)
    (same : (Node.directory entries).erase below = (Node.directory entries').erase below)

/-- None of the artifact files that remain without the configuration file is at a place below the
directory of the artifacts. -/
def IsLeftOut (files : FileSystem) (directory configuration : String) (below : List String) :
    Prop :=
  ∀ paths, artifactFiles files directory (some configuration) = .ok paths →
    ∀ path ∈ paths, Path.isWithin (walkedPath directory below) path = false

section States

variable {files other : FileSystem} {directory configuration : String} {below : List String}
  {entries entries' : List (String × Node)}

/-- The configuration file is left out where its path is that of the place, and nothing is below the
place. -/
theorem isLeftOut_of_same (hnode : files.node true directory = .ok (.directory entries))
    (hnamed : (Node.directory entries).IsWellNamed) (hbelow : ∀ name ∈ below, IsFileName name)
    (hbare : ∀ more content mode, (Node.directory entries).at? (below ++ more) =
      some (.file content mode) → more = [])
    (hsame : Path.same (walkedPath directory below) configuration = true) :
    IsLeftOut files directory configuration below := by
  intro paths hpaths path hpath
  unfold artifactFiles at hpaths
  rw [discover_of_node hnode] at hpaths
  cases hpaths
  obtain ⟨hfound, hother⟩ := List.mem_filter.1 hpath
  obtain ⟨names, content, mode, hat, rfl, -⟩ := (mem_foundBelow_iff hnamed).1 hfound
  rw [← Bool.not_eq_true, isWithin_walkedPath_iff hbelow (hnamed.isFileName hat)]
  rintro ⟨more, rfl⟩
  rw [hbare more content mode hat, List.append_nil] at hother
  simp [isConfigurationPath, hsame] at hother

/-- The artifact files that remain are found in the tree without the place that they are not at. -/
theorem loadedFiles_of_isLeftOut (h : IsLeftOut files directory configuration below)
    (hnode : files.node true directory = .ok (.directory entries))
    (hnamed : (Node.directory entries).IsWellNamed) (hne : below ≠ [])
    (hbelow : ∀ name ∈ below, IsFileName name) :
    loadedFiles (some configuration) (foundBelow directory (.directory entries)) =
      loadedFiles (some configuration)
        (foundBelow directory ((Node.directory entries).erase below)) := by
  have hpaths : artifactFiles files directory (some configuration) =
      .ok (loadedFiles (some configuration) (foundBelow directory (.directory entries))) := by
    unfold artifactFiles
    rw [discover_of_node hnode]
    rfl
  have hkept : (loadedFiles (some configuration) (foundBelow directory (.directory entries))).filter
      (fun path => !Path.isWithin (walkedPath directory below) path) =
      loadedFiles (some configuration) (foundBelow directory (.directory entries)) :=
    List.filter_eq_self.2 fun path hpath => congrArg not (h _ hpaths path hpath)
  rw [foundBelow_erase hnamed hne hbelow, ← hkept]
  unfold loadedFiles
  rw [List.filter_filter, List.filter_filter]
  simp only [Bool.and_comm]

/-- An artifact file that is not within the erased place is read from both file systems alike. -/
theorem readBare_eq {path : String}
    (hnode : files.node true directory = .ok (.directory entries))
    (hnode' : other.node true directory = .ok (.directory entries'))
    (hnamed : (Node.directory entries).IsWellNamed)
    (hsame : (Node.directory entries).erase below = (Node.directory entries').erase below)
    (hbelow : ∀ name ∈ below, IsFileName name)
    (hpath : path ∈ foundBelow directory (.directory entries))
    (hout : below ≠ [] → Path.isWithin (walkedPath directory below) path = false) :
    readBare files path = readBare other path := by
  obtain ⟨names, content, mode, hat, rfl, -⟩ := (mem_foundBelow_iff hnamed).1 hpath
  have hnames := hnamed.isFileName hat
  have hat' : (Node.directory entries').at? names = some (.file content mode) := by
    by_cases hne : below = []
    · rw [hne] at hsame
      rw [← show Node.directory entries = Node.directory entries' from hsame]
      exact hat
    · have hwithin : Path.isWithin (walkedPath directory below) (walkedPath directory names) =
          true ↔ below <+: names := isWithin_walkedPath_iff hbelow hnames
      have hapart : ¬ below <+: names := by
        rw [← hwithin, hout hne]
        exact Bool.false_ne_true
      rw [← Node.at?_erase_eq_file_iff hne hapart, ← hsame, Node.at?_erase_eq_file_iff hne hapart]
      exact hat
  have htext : files.readText (walkedPath directory names) =
      other.readText (walkedPath directory names) := by
    rw [readText_walkedPath hnode hnames hat, readText_walkedPath hnode' hnames hat']
  unfold readBare readArtifact
  rw [htext]

/-- The same bare programs are loaded from file systems that have the same artifacts. -/
theorem map_bare_load_eq (hbelow : ∀ name ∈ below, IsFileName name)
    (hsame : SameBesides files other directory below)
    (hout : below ≠ [] → IsLeftOut files directory configuration below)
    (hout' : below ≠ [] → IsLeftOut other directory configuration below) :
    (load files directory (some configuration)).map (List.map Program.bare) =
      (load other directory (some configuration)).map (List.map Program.bare) := by
  cases hsame with
  | missing absent absent' =>
    unfold load
    rw [absent, absent']
    rfl
  | @trees entries entries' node node' named named' same =>
    have hloaded : loadedFiles (some configuration) (foundBelow directory (.directory entries)) =
        loadedFiles (some configuration) (foundBelow directory (.directory entries')) := by
      by_cases hne : below = []
      · rw [hne] at same
        rw [show Node.directory entries = Node.directory entries' from same]
      · rw [loadedFiles_of_isLeftOut (hout hne) node named hne hbelow, same,
          loadedFiles_of_isLeftOut (hout' hne) node' named' hne hbelow]
    have hpaths : artifactFiles files directory (some configuration) =
        .ok (loadedFiles (some configuration) (foundBelow directory (.directory entries))) := by
      unfold artifactFiles
      rw [discover_of_node node]
      rfl
    rw [map_bare_load (isDirectory_of_node node) (discover_of_node node),
      map_bare_load (isDirectory_of_node node') (discover_of_node node'), ← hloaded]
    refine loadFrom_congr fun path hpath => ?_
    exact readBare_eq node node' named same hbelow (List.mem_of_mem_filter hpath)
      fun hne => hout hne _ hpaths path hpath

end States

end Catalog

/-- A connector without the comments of its functions. -/
def Connector.uncommented (connector : Connector) : Connector :=
  { connector with functions := Wrapper.withoutComments connector.functions }

namespace Connector

variable {profile : TypeScript.Profile} {options options' : Wrapper.Options}
  {programs others : List Program}

/-- The types of programs do not depend on configurations. -/
theorem typesModule_map_bare (profile : TypeScript.Profile) (programs : List Program) :
    typesModule profile (programs.map Program.bare) = typesModule profile programs := by
  have hblocks : (programs.map Program.bare).mapM (programBlocks profile) =
      programs.mapM (programBlocks profile) := by
    induction programs with
    | nil => rfl
    | cons program rest ih =>
      have hfirst : programBlocks profile program.bare = programBlocks profile program := rfl
      rw [List.map_cons, List.mapM_cons, List.mapM_cons, hfirst, ih]
  unfold typesModule
  rw [hblocks]

/-- A connector without comments has the functions module without them. -/
theorem map_uncommented_eq (profile : TypeScript.Profile) (options : Wrapper.Options)
    (programs : List Program) : (ofPrograms profile options programs).map uncommented =
      (typesModule profile programs).map fun types =>
        ⟨types, Wrapper.withoutComments (Wrapper.renderModule programs options),
          programs.length⟩ := by
  have hmap (types : Except Failure String) (functions : String) (count : Nat) :
      (types >>= fun types => Except.ok (⟨types, functions, count⟩ : Connector)).map uncommented =
        types.map fun types => ⟨types, Wrapper.withoutComments functions, count⟩ := by
    cases types <;> rfl
  exact hmap _ _ _

/-- Without comments, the connectors of programs that are the same but for configurations are the
same, whatever the options are. -/
theorem map_uncommented_ofPrograms (h : programs.map Program.bare = others.map Program.bare) :
    (ofPrograms profile options programs).map uncommented =
      (ofPrograms profile options' others).map uncommented := by
  have htypes : typesModule profile programs = typesModule profile others := by
    rw [← typesModule_map_bare, h, typesModule_map_bare]
  have htexts (programs : List Program) :
      (programs.map fun program => Wrapper.functionText program.names program.code) =
        (programs.map Program.bare).map fun program =>
          Wrapper.functionText program.names program.code := by
    rw [List.map_map]
    rfl
  have hfunctions : Wrapper.withoutComments (Wrapper.renderModule programs options) =
      Wrapper.withoutComments (Wrapper.renderModule others options') := by
    rw [Wrapper.withoutComments_renderModule, Wrapper.withoutComments_renderModule, htexts, h,
      ← htexts]
  have hlength : programs.length = others.length := by simpa using congrArg List.length h
  rw [map_uncommented_eq, map_uncommented_eq, htypes, hfunctions, hlength]

end Connector

namespace Project

variable {files other : FileSystem} {settings : Settings} {below : List String}

/-- Without comments, the connectors of projects with the same artifacts are the same. -/
theorem map_uncommented_connectorOf (options options' : Wrapper.Options)
    (hbelow : ∀ name ∈ below, IsFileName name)
    (hsame : Catalog.SameBesides files other settings.programsPath below)
    (hout : below ≠ [] →
      Catalog.IsLeftOut files settings.programsPath settings.configurationPath below)
    (hout' : below ≠ [] →
      Catalog.IsLeftOut other settings.programsPath settings.configurationPath below) :
    (connectorOf files settings options).map Connector.uncommented =
      (connectorOf other settings options').map Connector.uncommented := by
  unfold connectorOf
  exact map_bind_eq (Catalog.map_bare_load_eq hbelow hsame hout hout')
    fun _ _ hbare => Connector.map_uncommented_ofPrograms hbare

/-- Whatever stands at the configuration file, as long as it is none of the artifact files that
remain without it, and whatever the options are: either no connector is generated, with the same
failure, or connectors are generated with the same types, for the same number of programs, and with
the same functions but for comments. Without these, what is left is the header and the text of every
function. -/
theorem connectorOf_soft (options options' : Wrapper.Options)
    (hbelow : ∀ name ∈ below, IsFileName name)
    (hsame : Catalog.SameBesides files other settings.programsPath below)
    (hout : below ≠ [] →
      Catalog.IsLeftOut files settings.programsPath settings.configurationPath below)
    (hout' : below ≠ [] →
      Catalog.IsLeftOut other settings.programsPath settings.configurationPath below) :
    (∃ failure, connectorOf files settings options = .error failure ∧
      connectorOf other settings options' = .error failure) ∨
    ∃ connector connector' : Connector, ∃ programs : List Program,
      connectorOf files settings options = .ok connector ∧
      connectorOf other settings options' = .ok connector' ∧
      Catalog.load files settings.programsPath (some settings.configurationPath) = .ok programs ∧
      connector.types = connector'.types ∧ connector.programCount = connector'.programCount ∧
      Wrapper.withoutComments connector.functions =
        Wrapper.header ++ "\n".intercalate (programs.map fun program =>
          Wrapper.functionText program.names program.code) ∧
      Wrapper.withoutComments connector'.functions =
        Wrapper.withoutComments connector.functions := by
  obtain ⟨failure, hfiles, hother⟩ | ⟨connector, connector', hfiles, hother, hboth⟩ :=
    both_of_map_eq (map_uncommented_connectorOf options options' hbelow hsame hout hout')
  · exact .inl ⟨failure, hfiles, hother⟩
  · obtain ⟨programs, hload, hprograms⟩ := bind_eq_ok hfiles
    obtain ⟨types, -, hconnector⟩ := bind_eq_ok hprograms
    have hmodule : connector.functions = Wrapper.renderModule programs options :=
      (congrArg Connector.functions (Except.ok.inj hconnector)).symm
    have htypes := congrArg Connector.types hboth
    have hcount := congrArg Connector.programCount hboth
    have hfunctions := congrArg Connector.functions hboth.symm
    refine .inr ⟨connector, connector', programs, hfiles, hother, hload, htypes, hcount, ?_,
      hfunctions⟩
    rw [hmodule, Wrapper.withoutComments_renderModule]

/-- An artifact beside a configuration file that describes its program. -/
def describedEntries : List (String × Node) :=
  [("a.json", Catalog.artifactFile "Count"), ("configuration.json",
    .file "\x7b\"\":\x7b\"description\":\"Counts.\"\x7d\x7d".toUTF8 newFileMode)]

/-- The two in the directory of programs. -/
def describedFiles : FileSystem :=
  ⟨.directory [("programs", .directory describedEntries)], []⟩

/-- The settings of a project whose configuration file stands among the artifacts. -/
def besideSettings : Settings := { configurationFile := "programs/configuration.json" }

/-- The program of these files is generated with a description as well as without a configuration
file and with other options, and the connectors are the same but for comments. -/
theorem connectorOf_soft_describedFiles : ∃ connector connector',
    connectorOf describedFiles besideSettings {} = .ok connector ∧
    connectorOf countFiles besideSettings { allowRelaxedTypes := true } = .ok connector' ∧
    connector.types = connector'.types ∧
    Wrapper.withoutComments connector'.functions =
      Wrapper.withoutComments connector.functions := by
  have hartifact : IsFileName "a.json" := by decide
  have hconfiguration : IsFileName "configuration.json" := by decide
  have hbelow : ∀ name ∈ ["configuration.json"], IsFileName name :=
    List.forall_mem_singleton.2 hconfiguration
  have hnode : describedFiles.node true besideSettings.programsPath =
      .ok (.directory describedEntries) := by
    rfl
  have hnode' : countFiles.node true besideSettings.programsPath =
      .ok (.directory [("a.json", Catalog.artifactFile "Count")]) := by
    rfl
  have hnamed : (Node.directory describedEntries).IsWellNamed :=
    .directory (List.forall_mem_cons.2 ⟨hartifact, List.forall_mem_singleton.2 hconfiguration⟩)
      (by decide) (List.forall_mem_cons.2 ⟨.file, List.forall_mem_singleton.2 .file⟩)
  have hnamed' : (Node.directory [("a.json", Catalog.artifactFile "Count")]).IsWellNamed :=
    .directory (List.forall_mem_singleton.2 hartifact) (by decide)
      (List.forall_mem_singleton.2 .file)
  have hsame : Path.same (walkedPath besideSettings.programsPath ["configuration.json"])
      besideSettings.configurationPath = true := by decide
  have hout : Catalog.IsLeftOut describedFiles besideSettings.programsPath
      besideSettings.configurationPath ["configuration.json"] := by
    refine Catalog.isLeftOut_of_same hnode hnamed hbelow (fun more content mode hat => ?_) hsame
    cases more with
    | nil => rfl
    | cons name rest => exact nomatch hat
  have hout' : Catalog.IsLeftOut countFiles besideSettings.programsPath
      besideSettings.configurationPath ["configuration.json"] :=
    Catalog.isLeftOut_of_same hnode' hnamed' hbelow (fun more content mode hat => nomatch hat) hsame
  have hstates : Catalog.SameBesides describedFiles countFiles besideSettings.programsPath
      ["configuration.json"] := .trees hnode hnode' hnamed hnamed' rfl
  have hgenerated : (connectorOf countFiles besideSettings
      { allowRelaxedTypes := true }).toOption.isSome = true := by decide +kernel
  obtain ⟨failure, -, hfailure⟩ | ⟨connector, connector', -, h, h', -, htypes, -, -, hfunctions⟩ :=
    connectorOf_soft {} { allowRelaxedTypes := true } hbelow hstates (fun _ => hout)
      (fun _ => hout')
  · rw [hfailure] at hgenerated
    exact nomatch hgenerated
  · exact ⟨connector, connector', h, h', htypes, hfunctions⟩

end Project

end ProgramConnector
