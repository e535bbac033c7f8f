import ProgramConnector.Command.Run
import ProgramConnector.Json.Printer

/-!
# The command line

The outer layer of the program. The files that a run may look at are read from the disk into a tree,
the run works on that tree, and what it has changed is written back.
-/

namespace ProgramConnector.Disk

/-- A path as the operating system takes it. -/
def located (path : String) := (· / path) <$> IO.currentDir

/-- The text of an absolute path of a location. -/
def pathOf (location : List String) : String := "/" ++ "/".intercalate location

/-- The location of a path, taken from the working directory. -/
def locationOf (here path : String) : List String :=
  (FileSystem.steps (Path.join here path)).foldl
    (fun location step =>
      if step == "." then location
      else if step == ".." then location.dropLast
      else location ++ [step])
    []

/-- The permission bits that stand for those of a file that cannot be read. -/
def hiddenMode : Nat := 0o200

/-- What stands at a path of the disk. A file that cannot be read stands there without its content.
With `deep` a directory is read with all that is below it. -/
partial def readNode (deep : Bool) (path : String) : IO (Option Node) := do
  try
    let place ← located path
    match (← place.symlinkMetadata).type with
    | .file =>
      try return some (.file (← IO.FS.readBinFile place) FileSystem.newFileMode)
      catch _ => return some (.file .empty hiddenMode)
    | .symlink => return some (.link (← IO.FS.realPath place).toString)
    | .dir =>
      if !deep then return some (.directory [])
      let mut entries := []
      for entry in ← place.readDir do
        if let some node ← readNode deep (path ++ "/" ++ entry.fileName) then
          entries := (entry.fileName, node) :: entries
      return some (.directory entries.reverse)
    | .other => return none
  catch _ => return none

/-- The files with the nodes on the way to a location and the one at it. Links on the way are taken
for the directories that they lead to. -/
partial def observeAt (deep : Bool) (before rest : List String) (files : FileSystem) :
    IO FileSystem := do
  match rest with
  | [] => return files
  | name :: rest =>
    let location := before ++ [name]
    if rest.isEmpty then
      if !deep && (files.root.at? location).isSome then return files
      match ← readNode deep (pathOf location) with
      | some (.link target) =>
        let files := files.put location (.link target)
        observeAt deep [] (locationOf "/" target) files
      | some node => return files.put location node
      | none => return files
    else if (files.root.at? location).isSome then observeAt deep location rest files
    else if ← (← located (pathOf location)).isDir then
      observeAt deep location rest (files.put location (.directory []))
    else
      match ← readNode false (pathOf location) with
      | some node => return files.put location node
      | none => return files

/-- The files with what stands at a path. -/
def observe (deep : Bool) (here : String) (files : FileSystem) (path : String) : IO FileSystem :=
  observeAt deep [] (locationOf here path) files

/-- The settings files that a run may look at. -/
def settingsPaths (environment : Environment) (named : Option String) : List String :=
  let user := (Settings.Readers.standard.directory? environment).map fun directory =>
    Path.join directory Settings.userFile
  (Settings.localFiles ++ user.toList ++ named.toList).flatMap fun path =>
    path :: Settings.Format.all.map fun format => path ++ "." ++ format.extension

/-- The files of a project that a run may look at one by one. -/
def projectPaths (settings : Settings) : List String :=
  [settings.configurationPath, settings.typesPath, settings.functionsPath]
    ++ (Scaffold.packageFile :: Scaffold.managedFiles ++ Scaffold.seededFiles).map fun name =>
      Path.join settings.root name

/-- Writes a node of a tree to the disk where it differs from the node that was there. -/
partial def writeBack (location : List String) (before : Option Node) (after : Node) : IO Unit := do
  let path := pathOf location
  match after with
  | .link _ => return
  | .directory entries =>
    if !(before.any Node.isDirectory) then IO.FS.createDirAll path
    let earlier := (before.map Node.entries).getD []
    for (name, node) in entries do
      writeBack (location ++ [name]) (Members.find? name earlier) node
  | .file content mode =>
    let same := match before with
      | some (.file earlier earlierMode) => earlier.data == content.data && earlierMode == mode
      | _ => false
    if !same then
      IO.FS.writeBinFile path content
      if mode == Action.outputMode then
        let right : IO.AccessRight := ⟨true, true, false⟩
        IO.setAccessRights path ⟨right, right, right⟩

/-- A variable of an environment block. -/
def variableOf? (entry : List Char) : Option (String × String) :=
  match entry.dropWhile (· != '=') with
  | _ :: value => some (String.ofList (entry.takeWhile (· != '=')), String.ofList value)
  | [] => none

/-- The environment of the process. -/
def environment : IO Environment := do
  try
    let block ← IO.FS.readBinFile "/proc/self/environ"
    return (Text.splitAt '\x00' (Text.decodeLeniently block.data.toList)).filterMap variableOf?
  catch _ => return []

/-- The line of a logged event. -/
def logLine (pretty : Bool) (event : Event) : String :=
  if pretty then "  " ++ event.level.label ++ " " ++ event.part.target ++ ": " ++ event.message
  else
    (Json.obj [("level", .str event.level.label),
      ("fields", .obj [("message", .str event.message)]),
      ("target", .str event.part.target)]).toText

/-- The files that a run with these arguments may look at. -/
def filesFor (environment : Environment) (arguments : List String) : IO FileSystem := do
  let here := (← IO.currentDir).toString
  let files ← observe false here ⟨.directory [], locationOf "/" here⟩ (Path.join here ".")
  match Command.Request.ofArguments environment arguments with
  | .run invocation =>
    let paths := settingsPaths environment invocation.settingsFile
    let files ← paths.foldlM (observe false here) files
    match Command.settingsOf files environment invocation with
    | .ok settings =>
      let files ← observe true here files settings.programsPath
      (projectPaths settings).foldlM (observe false here) files
    | .error _ => return files
  | _ => return files

end ProgramConnector.Disk

open ProgramConnector in
/-- Runs the program on the files of the disk. -/
def main (arguments : List String) : IO UInt32 := do
  let environment ← Disk.environment
  let files ← Disk.filesFor environment arguments
  let (outcome, after) := Command.run environment arguments files
  Disk.writeBack [] (some files.root) after.root
  for event in outcome.logged do
    IO.eprintln (Disk.logLine outcome.pretty event)
  if outcome.exitCode == 2 then
    IO.eprintln ("Usage: " ++ Command.programName ++ " [OPTIONS] <COMMAND>")
  if let some error := outcome.error then
    IO.eprintln ("Error: " ++ error)
  IO.print outcome.output
  return outcome.exitCode.toUInt32
