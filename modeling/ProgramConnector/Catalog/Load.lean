import ProgramConnector.Catalog.Check
import ProgramConnector.Catalog.ConfigurationFile

/-!
# Loading a catalog

The artifact files of a directory are the regular files below it, at any depth, whose extension is
`json`. They come in the order of a walk that visits the entries of every directory sorted by name.

The programs of a directory are read in the order of discovery, each with its entry in the
configuration file. All of them are read before names are compared, and names are compared before
any program is checked. What is reported on the way is computed beside the outcome.
-/

namespace ProgramConnector.Catalog

/-- The extension of artifact files. -/
def artifactExtension : List Char := ['j', 's', 'o', 'n']

/-- Whether a node met at a path is an artifact file. -/
def isArtifactFile (path : String) (node : Node) : Bool :=
  node.isFile && Path.extension? path == some artifactExtension

/-- The artifact files at and below a path. -/
def discover (files : FileSystem) (root : String) : Except Failure (List String) :=
  match files.walk root with
  | .ok met => .ok ((met.filter fun (path, node) => isArtifactFile path node).map Prod.fst)
  | .error fault => .error (.walk root fault)

/-- The artifact of a file. -/
def readArtifact (files : FileSystem) (path : String) : Except Failure Artifact :=
  match files.readText path with
  | .error fault => .error (.io path fault)
  | .ok source =>
    match Artifact.ofText source with
    | .ok artifact => .ok artifact
    | .error problem => .error (.unreadable path problem)

/-- The program of a file. -/
def readProgram (files : FileSystem) (configurations : ProgramConfigurations) (path : String) :
    Except Failure Program :=
  (readArtifact files path).map fun artifact =>
    ⟨path, artifact, configurations.get? artifact.identifier⟩

/-- The configurations of a configuration file, if one is named. -/
def configurationsAt (files : FileSystem) : Option String → ProgramConfigurations
  | some path => (ConfigurationFile.ofPath files path).configurations
  | none => {}

/-- Whether a file is the configuration file, by its path. -/
def isConfigurationPath (configuration : Option String) (path : String) : Bool :=
  configuration.any fun configured => Path.same path configured

/-- The artifact files of a directory, without the configuration file. -/
def artifactFiles (files : FileSystem) (directory : String) (configuration : Option String) :
    Except Failure (List String) :=
  (discover files directory).map fun paths =>
    paths.filter fun path => !isConfigurationPath configuration path

/-- The programs of a directory. -/
def load (files : FileSystem) (directory : String) (configuration : Option String) :
    Except Failure (List Program) := do
  if !files.isDirectory directory then throw (.missingDirectory directory)
  let paths ← artifactFiles files directory configuration
  let programs ← paths.mapM (readProgram files (configurationsAt files configuration))
  checkNames programs
  programs.forM checkProgram
  return programs

/-- What is reported about artifacts that are read, up to the first that fails. -/
def readingEvents (files : FileSystem) (paths : List String) : List Event :=
  (paths.takeWhile fun path => (readArtifact files path).toBool).map fun _ =>
    ⟨.debug, .loader, "Loaded artifact"⟩

/-- What is reported about repeated names, once all artifacts have been read. -/
def namingEvents (files : FileSystem) (paths : List String) : List Event :=
  match paths.mapM (readProgram files {}) with
  | .ok programs =>
    if (firstRepeated [] programs).isSome then
      [⟨.debug, .loader, "Duplicate function name"⟩]
    else []
  | .error _ => []

/-- What is reported while the programs of a directory are loaded. -/
def loadEvents (files : FileSystem) (directory : String) (configuration : Option String) :
    List Event :=
  if !files.isDirectory directory then []
  else
    (configuration.map fun path => (ConfigurationFile.ofPath files path).event).toList
      ++ match artifactFiles files directory configuration with
        | .error _ => []
        | .ok paths =>
          ⟨.info, .loader, "Discovered artifact files"⟩
            :: (readingEvents files paths ++ namingEvents files paths)

end ProgramConnector.Catalog
