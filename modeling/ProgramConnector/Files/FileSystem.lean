import ProgramConnector.Failure
import ProgramConnector.Files.Node

/-!
# File systems

A file system is a tree of files with a working directory. A path leads to a place: its steps are
taken one by one, a step through a link goes on from the link's target, and at most `linkLimit`
links are followed. Reading, writing and making directories fail with the fault that the first step
at odds with the tree gives.

A run is that of an ordinary user who owns all files: the bits of the owner decide whether a file may
be read or written, and an owner may set the bits of any file. Every directory may be listed,
searched and changed.
-/

namespace ProgramConnector

/-- A tree of files and the location of the working directory. -/
structure FileSystem where
  /-- The whole tree. -/
  root : Node
  /-- The working directory. -/
  current : List String

/-- Where a path leads. -/
inductive Place where
  /-- To a node. -/
  | taken (location : List String)
  /-- To a name that its directory does not have. With `slash` the path ends like that of a
  directory. -/
  | free (location : List String) (slash : Bool)
deriving DecidableEq

namespace FileSystem

/-- The greatest number of links that one path goes through. -/
def linkLimit : Nat := 40

/-- The greatest number of bytes of a name. -/
def nameLimit : Nat := 255

/-- The number of bytes that a path stays below. -/
def pathLimit : Nat := 4096

/-- The permission bits of a new file. -/
def newFileMode : Nat := 0o644

/-- The steps of a path. Steps that lead nowhere are left out, but for a last one, which stays as a
dot: what comes before it has to be a directory. -/
def steps (path : String) : List String :=
  let pieces := Path.pieces path
  (pieces.filter fun piece => !Path.isVoid piece).map String.ofList
    ++ (if pieces.getLast?.any Path.isVoid then ["."] else [])

/-- The location from which the steps of a path are taken. -/
def startOf (here : List String) (path : String) : List String :=
  if Path.isAbsolute path then [] else here

/-- Takes steps from a location. At a link, `onLink` is given the directory of the link, its target
and the steps that are left; a link at the end is followed only with `follow`. -/
def walkSteps (root : Node)
    (onLink : List String → String → List String → Except OsError Place) (follow : Bool) :
    List String → List String → Except OsError Place
  | here, [] => .ok (.taken here)
  | here, step :: rest =>
    if step == "." then walkSteps root onLink follow here rest
    else if step == ".." then walkSteps root onLink follow here.dropLast rest
    else if nameLimit < step.utf8ByteSize then .error .nameTooLong
    else
      let next := here ++ [step]
      match root.at? next with
      | none =>
        if rest.isEmpty then .ok (.free next false)
        else if rest == ["."] then .ok (.free next true)
        else .error .notFound
      | some (.directory _) => walkSteps root onLink follow next rest
      | some (.file _ _) => if rest.isEmpty then .ok (.taken next) else .error .notADirectory
      | some (.link target) =>
        if rest.isEmpty && !follow then .ok (.taken next) else onLink here target rest

/-- Takes steps from a location through at most the given number of links. -/
def resolveSteps (root : Node) (follow : Bool) :
    Nat → List String → List String → Except OsError Place
  | 0, here, path => walkSteps root (fun _ _ _ => .error .tooManyLinks) follow here path
  | links + 1, here, path =>
    walkSteps root
      (fun here target rest =>
        resolveSteps root follow links (startOf here target) (steps target ++ rest))
      follow here path

/-- The fault of a path that no system call accepts. -/
def pathFault? (path : String) : Option OsError :=
  if path.toList.contains '\x00' then some .nullInName
  else if path.isEmpty then some .notFound
  else if pathLimit ≤ path.utf8ByteSize then some .nameTooLong
  else none

/-- Where a path leads. -/
def resolve (files : FileSystem) (follow : Bool) (path : String) : Except OsError Place :=
  match pathFault? path with
  | some fault => .error fault
  | none =>
    resolveSteps files.root follow linkLimit (startOf files.current path) (steps path)

/-- The node that a path leads to. -/
def node (files : FileSystem) (follow : Bool) (path : String) : Except OsError Node := do
  match ← files.resolve follow path with
  | .taken location =>
    match files.root.at? location with
    | some node => return node
    | none => throw .notFound
  | .free _ _ => throw .notFound

/-- Whether a path leads to anything. -/
def holds (files : FileSystem) (path : String) : Bool := (files.node true path).toBool

/-- Whether a path leads to a directory. -/
def isDirectory (files : FileSystem) (path : String) : Bool :=
  match files.node true path with
  | .ok node => node.isDirectory
  | .error _ => false

/-- Whether permission bits let the owner of a file read it. -/
def mayRead (mode : Nat) : Bool := mode.testBit 8

/-- Whether permission bits let the owner of a file write it. -/
def mayWrite (mode : Nat) : Bool := mode.testBit 7

/-- The content of the file at a path. -/
def read (files : FileSystem) (path : String) : Except OsError ByteArray := do
  match ← files.node true path with
  | .file content mode => if mayRead mode then return content else throw .permissionDenied
  | .directory _ => throw .isADirectory
  | .link _ => throw .tooManyLinks

/-- The content of the file at a path as text. -/
def readText (files : FileSystem) (path : String) : Except OsError String := do
  match String.fromUTF8? (← files.read path) with
  | some text => return text
  | none => throw .invalidText

/-- The file system with `new` at a location. -/
def put (files : FileSystem) (location : List String) (new : Node) : FileSystem :=
  { files with root := Node.put new location files.root }

/-- A path without the slashes at its end; the root directory stays. -/
def withoutEndSlashes (path : String) : String :=
  let kept := (path.toList.reverse.dropWhile (· == '/')).reverse
  if kept.isEmpty then path else String.ofList kept

/-- Whether a path ends with a slash. -/
def endsWithSlash (path : String) : Bool := path.toList.getLast? == some '/'

/-- Makes one directory. -/
def makeDirectory (files : FileSystem) (path : String) : Except OsError FileSystem := do
  match ← files.resolve false (withoutEndSlashes path) with
  | .taken _ => throw .alreadyExists
  | .free _ true => throw .notFound
  | .free location false => return files.put location (.directory [])

/-- Makes a directory. Where the directory above is missing it is made first; a directory that is
there already is left alone. The list holds the path and the paths above it, nearest first. -/
def makeDirectoryChain : List String → FileSystem → FileSystem × Except OsError Unit
  | [], files => (files, .ok ())
  | path :: above, files =>
    match files.makeDirectory path with
    | .ok made => (made, .ok ())
    | .error .notFound =>
      match makeDirectoryChain above files with
      | (under, .error fault) => (under, .error fault)
      | (under, .ok ()) =>
        match under.makeDirectory path with
        | .ok made => (made, .ok ())
        | .error fault => (under, if under.isDirectory path then .ok () else .error fault)
    | .error fault => (files, if files.isDirectory path then .ok () else .error fault)

/-- A path and the paths above it, nearest first, without the empty one. The bound is the number of
characters of the path. -/
def pathsUpward : Nat → String → List String
  | 0, _ => []
  | bound + 1, path =>
    if path.isEmpty then []
    else
      match Path.parent? path with
      | some above => path :: pathsUpward bound above
      | none => [path]

/-- Makes a directory with all directories above it. -/
def makeDirectories (files : FileSystem) (path : String) : FileSystem × Except OsError Unit :=
  makeDirectoryChain (pathsUpward path.length path) files

/-- Writes a file. A new one gets `newFileMode`, an old one has to let its owner write it and keeps
its permission bits, and through a link its target is written. -/
def write (files : FileSystem) (path : String) (content : ByteArray) :
    Except OsError FileSystem := do
  if endsWithSlash path then
    let _ ← files.resolve false (withoutEndSlashes path)
    throw .isADirectory
  match ← files.resolve true path with
  | .free _ true => throw .isADirectory
  | .free location false => return files.put location (.file content newFileMode)
  | .taken location =>
    match files.root.at? location with
    | some (.file _ mode) =>
      if mayWrite mode then return files.put location (.file content mode)
      else throw .permissionDenied
    | _ => throw .isADirectory

/-- Sets the permission bits of the file at a path; those of a directory are not kept. -/
def setMode (files : FileSystem) (path : String) (mode : Nat) : Except OsError FileSystem := do
  match ← files.resolve true path with
  | .free _ _ => throw .notFound
  | .taken location =>
    match files.root.at? location with
    | some (.file content _) => return files.put location (.file content mode)
    | _ => return files

/-- All nodes at and below a path, in the order of a walk. A link is followed only at the path
itself, and then it stands for itself before what is below its target. -/
def walk (files : FileSystem) (path : String) : Except OsError (List (String × Node)) := do
  match ← files.node false path with
  | .link target =>
    match ← files.node true path with
    | .directory entries =>
      return (path, .link target) :: ((Node.directory entries).walk path).drop 1
    | _ => return [(path, .link target)]
  | node => return node.walk path

end FileSystem

end ProgramConnector
