import ProgramConnector.Proofs.Catalog.Reloading
import ProgramConnector.Proofs.Files.Directory
import ProgramConnector.Proofs.Project.UpdateEffect

/-!
# The types module that is imported

The functions module imports its types from `./types`, whatever the settings call the types module.
So it imports the types module that an update has written when the path of the types module takes
the steps of that import, and where there is no link only when the types module is called `types.ts`
and stands beside the functions module.
-/

namespace ProgramConnector

namespace Wrapper

/-- The name and the specifier of an import, if a line is one that imports a module as a whole. -/
def importOf? (line : List Char) : Option (String × String) := do
  let rest ← line.dropPrefix? "import * as ".toList
  let (name, rest) := rest.span (· != ' ')
  let rest ← rest.dropPrefix? " from \"".toList
  let (specifier, rest) := rest.span (· != '"')
  if rest == "\";".toList then some (String.ofList name, String.ofList specifier) else none

/-- The imports that lines start with. -/
def leadingImports : List (List Char) → List (String × String)
  | [] => []
  | line :: rest =>
    match importOf? line with
    | some found => found :: leadingImports rest
    | none => []

/-- The specifier that a module imports under a name. -/
def importSpecifier? (name text : String) : Option String :=
  (leadingImports (Text.splitAt '\n' text.toList)).lookup name

/-- The lines of the imports of the functions module. -/
def importLines : List (List Char) :=
  ["import * as sdk from \"@hasura/ndc-lambda-sdk\";".toList,
    "import * as types from \"./types\";".toList,
    "import * as utils from \"./utils\";".toList]

/-- A line is split apart from what comes behind it. -/
theorem splitAt_line {text line : List Char} (htext : text = line ++ ['\n']) (h : '\n' ∉ line)
    (rest : List Char) : Text.splitAt '\n' (text ++ rest) = line :: Text.splitAt '\n' rest := by
  rw [htext, List.append_assoc, List.singleton_append, Text.splitAt_append_cons,
    Text.splitAt_of_not_mem h]
  rfl

/-- The functions module starts with its imports and an empty line. -/
theorem exists_splitAt_renderModule (programs : List Program) (options : Options) :
    ∃ rest, Text.splitAt '\n' (renderModule programs options).toList =
      importLines ++ [] :: rest := by
  have hsdk : "import * as sdk from \"@hasura/ndc-lambda-sdk\";\n".toList =
      "import * as sdk from \"@hasura/ndc-lambda-sdk\";".toList ++ ['\n'] := by simp
  have htypes : "import * as types from \"./types\";\n".toList =
      "import * as types from \"./types\";".toList ++ ['\n'] := by simp
  have hutils : "import * as utils from \"./utils\";\n".toList =
      "import * as utils from \"./utils\";".toList ++ ['\n'] := by simp
  have hempty : "\n".toList = [] ++ ['\n'] := rfl
  unfold renderModule header
  simp only [String.toList_append, List.append_assoc]
  rw [splitAt_line hsdk (by simp), splitAt_line htypes (by simp), splitAt_line hutils (by simp),
    splitAt_line hempty (by simp)]
  exact ⟨_, rfl⟩

/-- Whatever its programs, a functions module imports its types from `./types`. -/
theorem importSpecifier?_renderModule (programs : List Program) (options : Options) :
    importSpecifier? "types" (renderModule programs options) = some "./types" := by
  obtain ⟨rest, hlines⟩ := exists_splitAt_renderModule programs options
  unfold importSpecifier?
  rw [hlines]
  rfl

end Wrapper

namespace FileSystem

/-- Two paths take the same steps from the same place. -/
structure SameWay (path other : String) : Prop where
  /-- They start at the same place. -/
  start : Path.isAbsolute path = Path.isAbsolute other
  /-- They take the same steps. -/
  steps : steps path = steps other

/-- A path names something in a directory: it takes one step more than the directory does. -/
structure NamesIn (path directory name : String) : Prop where
  /-- They start at the same place. -/
  start : Path.isAbsolute path = Path.isAbsolute directory
  /-- The last step is that of the name. -/
  steps : steps path = leadingSteps directory ++ [name]
  /-- The last step is a name. -/
  name : IsName name

section Beside

variable {files : FileSystem} {path other directory name : String}

/-- The steps of a relative path that is taken from a directory come behind those of the
directory. -/
theorem steps_join_of_relative (directory : String) (hrelative : Path.isAbsolute path = false)
    (hlast : (Path.pieces path).getLast?.any Path.isVoid = false) :
    steps (Path.join directory path) = leadingSteps directory ++ leadingSteps path := by
  obtain ⟨⟨before, hpieces, hbefore⟩, -⟩ := Path.pieces_join_of_relative directory hrelative
  have hne : Path.pieces path ≠ [] := Text.splitAt_ne_nil '/' path.toList
  unfold steps
  simp only [hpieces, List.getLast?_append_of_ne_nil _ hne, hlast, List.filter_append, hbefore,
    List.map_append, Bool.false_eq_true, if_false, List.append_nil]
  rfl

/-- Where the last step of a path is a name, the path names something in its parent. -/
theorem exists_namesIn {front : List String} (h : steps path = front ++ [name])
    (hname : IsName name) : ∃ parent, Path.parent? path = some parent ∧
      NamesIn path parent name := by
  obtain ⟨before, hpieces, hvoid, hfront⟩ := Path.pieces_of_steps h hname
  obtain ⟨parent, hparent, hheld, hstart⟩ := Path.exists_parent hpieces hvoid
  have hleading : leadingSteps parent = front := by rw [leadingSteps, hheld, hfront]
  exact ⟨parent, hparent, hstart.symm, hleading ▸ h, hname⟩

/-- What a path names in a directory is taken from where the directory starts. -/
theorem NamesIn.startOf_eq (h : NamesIn path directory name) (here : List String) :
    startOf here path = startOf here directory := by
  rw [startOf, h.start, startOf]

/-- The location of what a path names is that of the directory and the name. -/
theorem NamesIn.location_eq (h : NamesIn path directory name) (files : FileSystem) :
    files.location path =
      locate (startOf files.current directory) (leadingSteps directory) ++ [name] := by
  rw [location, h.steps, h.startOf_eq, h.name.locate_append]

/-- Paths of files with plain names in a directory have the same directory. -/
theorem NamesIn.leadingSteps_eq {base step : String}
    (h : NamesIn (Path.join base step) directory name) (hslash : '/' ∉ step.toList) :
    Path.isAbsolute directory = Path.isAbsolute base ∧
      leadingSteps directory = leadingSteps base := by
  obtain ⟨⟨before, hpieces, hbefore⟩, hstart⟩ := Path.pieces_join base hslash
  obtain ⟨others, hothers, -, hfront⟩ := Path.pieces_of_steps h.steps h.name
  have hsame : before = others := (List.append_inj' (hpieces.symm.trans hothers) rfl).1
  exact ⟨h.start.symm.trans hstart, by rw [hfront, ← hsame, hbefore, leadingSteps]⟩

/-- Paths that take the same way lead to the same place, unless no system call accepts one of
them. -/
theorem SameWay.resolve_eq (h : SameWay path other) (hpath : pathFault? path = none)
    (hother : pathFault? other = none) (follow : Bool) :
    files.resolve follow path = files.resolve follow other := by
  unfold resolve
  rw [hpath, hother, h.steps, startOf, h.start, ← startOf]

/-- A text is read where a path leads to an output with this text. -/
theorem readText_of_entry {location : List String} {text : String}
    (hresolve : files.resolve true path = .ok (.taken location))
    (hfile : files.entryAt? location = some (.file text.toUTF8 Action.outputMode)) :
    files.readText path = .ok text := by
  have hnode := node_eq_ok_iff.2 ⟨location, hresolve, Node.entryAt?_eq_file_iff.1 hfile⟩
  exact readText_eq_ok_iff.2
    ⟨_, _, hnode, Action.mayRead_outputMode, dif_pos text.isValidUTF8⟩

end Beside

end FileSystem

namespace Project

open ProgramConnector.Action FileSystem

/-- The path of the module that the module at a path imports under a name: the specifier is taken
from the directory of the module that imports. -/
def importedPath? (path text name : String) : Option String := do
  let directory ← Path.parent? path
  let specifier ← Wrapper.importSpecifier? name text
  return Path.join directory (specifier ++ ".ts")

/-- What the functions module imports as its types is the file at the path of the types module. -/
def ImportsTypes (files : FileSystem) (settings : Settings) : Prop :=
  ∃ text imported location, files.readText settings.functionsPath = .ok text ∧
    importedPath? settings.functionsPath text "types" = some imported ∧
    files.resolve true imported = .ok (.taken location) ∧
    files.resolve true settings.typesPath = .ok (.taken location)

section Imports

variable {files later : FileSystem} {settings : Settings} {options : Wrapper.Options}
  {connector : Connector} {events reported : List Event} {summary : UpdateSummary}

/-- An update that succeeds puts the types module where its path leads, and then the functions
module. -/
theorem exists_puts_of_update (hcurrent : files.entryAt? files.current = some .directory)
    (h : runIn ⟨files, events⟩ (update settings options) = (.ok summary, ⟨later, reported⟩)) :
    ∃ connector middle typesLocation functionsLocation,
      connectorOf files settings options = .ok connector ∧
      Puts files middle settings.typesPath connector.types.toUTF8 outputMode typesLocation ∧
      Puts middle later settings.functionsPath connector.functions.toUTF8 outputMode
        functionsLocation := by
  obtain ⟨before, hrun⟩ := runIn_update files settings options events
  rw [h] at hrun
  cases hconnector : connectorOf files settings options with
  | error failure =>
    rw [hconnector] at hrun
    exact nomatch hrun
  | ok connector =>
    rw [hconnector] at hrun
    dsimp only at hrun
    match hwritten : runIn ⟨files, before⟩ (writeModules settings connector) with
    | (.error failure, after) =>
      rw [hwritten] at hrun
      exact nomatch hrun
    | (.ok (), after) =>
      rw [hwritten] at hrun
      cases hrun
      obtain ⟨_, middle, htypes, hfunctions⟩ := runIn_bind_eq_ok hwritten
      obtain ⟨typesLocation, htypes⟩ := exists_puts_of_writeOutput hcurrent htypes
      obtain ⟨functionsLocation, hfunctions⟩ :=
        exists_puts_of_writeOutput (htypes.changes.current hcurrent) hfunctions
      exact ⟨connector, middle.files, typesLocation, functionsLocation, rfl, htypes, hfunctions⟩

/-- The functions module of a connector imports its types from `./types`. -/
theorem importSpecifier?_of_connectorOf (h : connectorOf files settings options = .ok connector) :
    Wrapper.importSpecifier? "types" connector.functions = some "./types" := by
  obtain ⟨programs, -, hconnector⟩ := connectorOf_eq_ok_iff.1 h
  obtain ⟨types, -, hconnector⟩ := bind_eq_ok hconnector
  cases hconnector
  exact Wrapper.importSpecifier?_renderModule programs options

/-- The name of the imported module is a name. -/
theorem isFileName_types : IsFileName "types.ts" := by decide

/-- The import of types names `types.ts` in the directory that it is taken from. -/
theorem namesIn_importedTypes (directory : String) :
    NamesIn (Path.join directory "./types.ts") directory "types.ts" :=
  ⟨Path.isAbsolute_join directory (by decide),
    steps_join_of_relative directory (by decide) (by decide), isFileName_types.toIsName⟩

/-- The path of a types module that is called `types.ts` takes the steps of the import when the name
of the functions module goes through no directory. -/
theorem sameWay_of_typesFile {directory name : String} (htypes : settings.typesFile = "types.ts")
    (hslash : '/' ∉ settings.functionsFile.toList)
    (hfunctions : NamesIn settings.functionsPath directory name) :
    SameWay (Path.join directory "./types.ts") settings.typesPath := by
  obtain ⟨hstart, hleading⟩ := hfunctions.leadingSteps_eq hslash
  have himported := namesIn_importedTypes directory
  have hpath : settings.typesPath = Path.join settings.outputPath "types.ts" := by
    rw [Settings.typesPath, htypes]
  rw [hpath]
  constructor
  · rw [himported.start, hstart, Path.isAbsolute_join _ (by decide)]
  · rw [himported.steps, isFileName_types.steps_join, hleading]

/-- What an update says of the import of types in the functions module that it has written, which
stands in a directory. -/
structure TypesImport (files later : FileSystem) (settings : Settings) (connector : Connector)
    (directory : String) : Prop where
  /-- The functions module has been written. -/
  functions : later.readText settings.functionsPath = .ok connector.functions
  /-- The types module has been written, and is there unless the functions module takes its
  place. -/
  types : later.readText settings.typesPath = .ok connector.types ∨
    later.resolve true settings.typesPath = later.resolve true settings.functionsPath
  /-- The import is taken from the directory of the functions module. -/
  parent : Path.parent? settings.functionsPath = some directory
  /-- It names `./types`, whatever the settings are. -/
  specifier : Wrapper.importSpecifier? "types" connector.functions = some "./types"
  /-- The types module is imported when its path takes the steps of the import. -/
  leads : pathFault? (Path.join directory "./types.ts") = none →
    SameWay (Path.join directory "./types.ts") settings.typesPath → ImportsTypes later settings
  /-- It takes them when it is called `types.ts`, and the functions module is called by a name, in
  whatever directory. -/
  named : settings.typesFile = "types.ts" → '/' ∉ settings.functionsFile.toList →
    SameWay (Path.join directory "./types.ts") settings.typesPath
  /-- Where there is no link, the types module is imported exactly when it stands under the name
  `types.ts` beside the functions module. -/
  plain : pathFault? (Path.join directory "./types.ts") = none → files.IsPlain →
    (ImportsTypes later settings ↔ files.location settings.typesPath =
      (files.location settings.functionsPath).dropLast ++ ["types.ts"])

/-- After an update the types module is imported when the path of the import leads to it. -/
theorem importsTypes_iff {directory : String} {location : List String}
    (hfunctions : later.readText settings.functionsPath = .ok connector.functions)
    (hspecifier : Wrapper.importSpecifier? "types" connector.functions = some "./types")
    (hparent : Path.parent? settings.functionsPath = some directory)
    (htypes : later.resolve true settings.typesPath = .ok (.taken location)) :
    ImportsTypes later settings ↔
      later.resolve true (Path.join directory "./types.ts") = .ok (.taken location) := by
  have himported : importedPath? settings.functionsPath connector.functions "types" =
      some (Path.join directory "./types.ts") := by
    unfold importedPath?
    rw [hparent, hspecifier]
    rfl
  constructor
  · rintro ⟨text, imported, other, htext, hpath, hresolve, hother⟩
    cases hfunctions.symm.trans htext
    cases himported.symm.trans hpath
    cases htypes.symm.trans hother
    exact hresolve
  · intro hresolve
    exact ⟨_, _, location, hfunctions, himported, hresolve, htypes⟩

/-- Where there is no link, the path of the import leads to the name `types.ts` beside the functions
module, if a file is there. -/
theorem resolve_importedTypes {directory name : String} {location : List String} {place : Place}
    (hplain : later.IsPlain) (haccepted : pathFault? (Path.join directory "./types.ts") = none)
    (hnames : NamesIn settings.functionsPath directory name)
    (hfunctions : later.resolve true settings.functionsPath = .ok place) {content : ByteArray}
    {mode : Nat} (hfile : later.entryAt? location = some (.file content mode)) :
    later.resolve true (Path.join directory "./types.ts") = .ok (.taken location) ↔
      location = (later.location settings.functionsPath).dropLast ++ ["types.ts"] := by
  have himported := namesIn_importedTypes directory
  have hbeside : later.location (Path.join directory "./types.ts") =
      (later.location settings.functionsPath).dropLast ++ ["types.ts"] := by
    rw [himported.location_eq, hnames.location_eq, List.dropLast_concat]
  rw [← hbeside]
  constructor
  · exact fun hresolve => hplain.location_eq hresolve
  · rintro rfl
    -- The directory of the functions module is arrived at, and the import is taken from there.
    obtain ⟨-, hfinds⟩ := resolve_eq_ok_iff.1 hfunctions
    obtain ⟨left, here, harrives⟩ := hfinds.exists_arrives hnames.name.stays hnames.steps
    have hhere := harrives.location_eq hplain.unlinked
    rw [himported.location_eq, ← hnames.startOf_eq, ← hhere] at hfile ⊢
    unfold resolve
    rw [haccepted, himported.startOf_eq, himported.steps, ← hnames.startOf_eq]
    dsimp only
    rw [harrives.resolveSteps_append (.inr rfl), resolveSteps_name isFileName_types.toIsName,
      Node.entryAt?_eq_file_iff.1 hfile]
    rfl

/-- However the modules are called, the functions module of an update that succeeds imports its
types from `./types`. This is the types module that has been written when the path of that module
takes the steps of the import, as it does when it is called `types.ts` and the functions module by a
name; and where there is no link it is the types module only when that stands under this name beside
the functions module. -/
theorem typesImport_of_update (hcurrent : files.entryAt? files.current = some .directory)
    (h : runIn ⟨files, events⟩ (update settings options) = (.ok summary, ⟨later, reported⟩)) :
    ∃ connector directory, connectorOf files settings options = .ok connector ∧
      TypesImport files later settings connector directory := by
  obtain ⟨connector, middle, typesLocation, functionsLocation, hconnector, htypes, hfunctions⟩ :=
    exists_puts_of_update hcurrent h
  have hlater := hfunctions.changes.current (htypes.changes.current hcurrent)
  -- The functions module is a file, so its path ends with a name and has a parent.
  obtain ⟨-, front, name, hsteps, hname⟩ :=
    hasRoom_of_resolve hlater hfunctions.leads ⟨_, _, hfunctions.file⟩
  obtain ⟨directory, hparent, hnames⟩ := exists_namesIn hsteps hname
  have hspecifier := importSpecifier?_of_connectorOf hconnector
  have htypesLeads := htypes.resolve_later hcurrent hfunctions.changes
  have hread : later.readText settings.functionsPath = .ok connector.functions :=
    readText_of_entry hfunctions.leads hfunctions.file
  have himports := importsTypes_iff hread hspecifier hparent htypesLeads
  obtain ⟨content, mode, hfile⟩ := hfunctions.changes.persist.file _ _ _ htypes.file
  refine ⟨connector, directory, hconnector, hread, ?_, hparent, hspecifier, ?_, ?_, ?_⟩
  · by_cases hplace : typesLocation = functionsLocation
    · exact .inr (htypesLeads.trans (hplace ▸ hfunctions.leads.symm))
    · have hstays := hfunctions.changes.entryAt?_eq htypes.file hplace
      exact .inl (readText_of_entry htypesLeads hstays)
  · intro haccepted hway
    obtain ⟨hpath, -⟩ := resolve_eq_ok_iff.1 htypesLeads
    exact himports.2 ((hway.resolve_eq haccepted hpath true).trans htypesLeads)
  · exact fun htypesFile hslash => sameWay_of_typesFile htypesFile hslash hnames
  · intro haccepted hplain
    have hmiddlePlain := htypes.changes.isPlain hplain
    have hlaterPlain := hfunctions.changes.isPlain hmiddlePlain
    have hlocations (path : String) : later.location path = files.location path :=
      (hfunctions.changes.location_eq path).trans (htypes.changes.location_eq path)
    have htypesLocation : typesLocation = later.location settings.typesPath :=
      hlaterPlain.location_eq htypesLeads
    rw [himports, resolve_importedTypes hlaterPlain haccepted hnames hfunctions.leads hfile,
      htypesLocation, hlocations, hlocations]

/-- With the names that are set by default, the types module is imported. -/
theorem typesImport_of_update_countFiles :
    countFiles.entryAt? countFiles.current = some .directory ∧
    ∃ connector later reported, runIn ⟨countFiles, []⟩ (update {} {}) =
        (.ok ⟨1, "././types.ts", "././functions.ts"⟩, ⟨later, reported⟩) ∧
      TypesImport countFiles later {} connector "." ∧ ImportsTypes later {} := by
  have hresult : (runIn ⟨countFiles, []⟩ (update {} {})).1 =
      .ok ⟨1, "././types.ts", "././functions.ts"⟩ := eq_ok_of_toOption (by decide +kernel)
  have hrun : runIn ⟨countFiles, []⟩ (update {} {}) =
      (.ok ⟨1, "././types.ts", "././functions.ts"⟩, _) := Prod.ext hresult rfl
  obtain ⟨connector, directory, -, himport⟩ :=
    typesImport_of_update isPlain_countFiles.current hrun
  have hdirectory : directory = "." := Option.some.inj (himport.parent.symm.trans (by decide))
  subst hdirectory
  exact ⟨isPlain_countFiles.current, connector, _, _, hrun, himport,
    himport.leads (by decide) (himport.named rfl (by decide))⟩

/-- Settings that give the types module another name. -/
def renamedSettings : Settings := { typesFile := "models.ts" }

/-- A types module with another name is written, and the import leads to nothing. -/
theorem not_importsTypes_renamed : ∃ later reported text,
    runIn ⟨countFiles, []⟩ (update renamedSettings {}) =
      (.ok ⟨1, "././models.ts", "././functions.ts"⟩, ⟨later, reported⟩) ∧
    later.readText renamedSettings.functionsPath = .ok text ∧
    importedPath? renamedSettings.functionsPath text "types" = some "././types.ts" ∧
    later.resolve true "././types.ts" = .ok (.free ["types.ts"] false) ∧
    ¬ ImportsTypes later renamedSettings := by
  have hresult : (runIn ⟨countFiles, []⟩ (update renamedSettings {})).1 =
      .ok ⟨1, "././models.ts", "././functions.ts"⟩ := eq_ok_of_toOption (by decide +kernel)
  have hfree : (runIn ⟨countFiles, []⟩ (update renamedSettings {})).2.files.resolve true
      "././types.ts" = .ok (.free ["types.ts"] false) := eq_ok_of_toOption (by decide +kernel)
  have hrun : runIn ⟨countFiles, []⟩ (update renamedSettings {}) =
      (.ok ⟨1, "././models.ts", "././functions.ts"⟩, _) := Prod.ext hresult rfl
  obtain ⟨connector, middle, typesLocation, functionsLocation, hconnector, htypes, hfunctions⟩ :=
    exists_puts_of_update isPlain_countFiles.current hrun
  have hread := readText_of_entry hfunctions.leads hfunctions.file
  have hspecifier := importSpecifier?_of_connectorOf hconnector
  have hparent : Path.parent? renamedSettings.functionsPath = some "." := by decide
  refine ⟨_, _, connector.functions, hrun, hread, ?_, hfree, fun himports => ?_⟩
  · unfold importedPath?
    rw [hparent, hspecifier]
    decide
  · have htypesLeads := htypes.resolve_later isPlain_countFiles.current hfunctions.changes
    rw [importsTypes_iff hread hspecifier hparent htypesLeads] at himports
    exact nomatch himports.symm.trans hfree

end Imports

end Project

end ProgramConnector
