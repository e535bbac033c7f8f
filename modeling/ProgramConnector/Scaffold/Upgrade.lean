import ProgramConnector.Checksum.Basic
import ProgramConnector.Project.Action
import ProgramConnector.Scaffold.Package
import ProgramConnector.Scaffold.Version

/-!
# Upgrades

An upgrade brings the scaffold files of a project to their bundled content. Managed files are always
written, so that their permission bits are set again; a seeded file is written only where there is
none. The project's package description has to name a version of the connector kit, and it is left
as it is.
-/

namespace ProgramConnector

/-- What an upgrade does to a file. -/
inductive FileAction where
  /-- The file was not there, or could not be read. -/
  | created
  /-- The file had another content. -/
  | updated
  /-- The file had the bundled content. -/
  | unchanged
  /-- The file is the user's and stays as it is. -/
  | kept
deriving DecidableEq

/-- The name of an action. -/
def FileAction.label : FileAction → String
  | .created => "created"
  | .updated => "updated"
  | .unchanged => "unchanged"
  | .kept => "kept"

/-- What an upgrade has done. -/
structure UpgradeReport where
  /-- The version of the kit that the bundled files are made for. -/
  target : String
  /-- The version of the kit that the project asks for. -/
  current : String
  /-- The files with what was done to them. -/
  files : List (String × FileAction)
deriving DecidableEq

namespace UpgradeReport

/-- Whether the project asks for another version of the kit. -/
def upgradeRequired (report : UpgradeReport) : Bool :=
  Scaffold.differ report.target report.current

/-- What was done to the first file of a name. -/
def action? (report : UpgradeReport) (name : String) : Option FileAction :=
  (report.files.find? fun (path, _) => Path.fileName? path == some name.toList).map Prod.snd

end UpgradeReport

namespace Scaffold

/-- Files that an upgrade writes in any case. -/
def managedFiles : List String := ["utils.ts", "configuration.schema.json"]

/-- Files that an upgrade writes where there are none. -/
def seededFiles : List String := ["configuration.json"]

/-- What writing a text to a file does, judged by the checksum of what is there. -/
def actionOf (files : FileSystem) (path text : String) : FileAction :=
  match files.read path with
  | .error _ => .created
  | .ok content =>
    if (Checksum.ofBytes content).isOf text.toUTF8 then .unchanged else .updated

/-- Writes a text to a file and says what that does. -/
def install (path text : String) : Action FileAction := do
  let action := actionOf (← Action.files) path text
  Action.writeOutput path text
  return action

/-- Brings a file to its bundled content and reports it. -/
def upgradeFile (directory name : String) (seeded : Bool) : Action (String × FileAction) := do
  let path := Path.join directory name
  let action ←
    if seeded && (← Action.files).holds path then pure .kept
    else install path (← Action.ofExcept (bundled name))
  Action.report [⟨.info, .scaffold, "Upgraded scaffold file"⟩]
  return (path, action)

/-- The text of the package description of a project. -/
def readPackage (path : String) : Action String := do
  match (← Action.files).readText path with
  | .ok text => return text
  | .error fault => throw (.io path fault)

/-- The advice to upgrade the kit by hand. -/
def upgradeAdvice (target : String) : String :=
  "Please manually upgrade the " ++ kitPackage ++ " package in your package.json to version "
    ++ target

/-- Upgrades the project in a directory. -/
def upgrade (directory : String) : Action UpgradeReport := do
  let target ← Action.ofExcept (bundled packageFile >>= fun text => kitVersion text packageFile)
  Action.report [⟨.info, .scaffold, "Upgrading SDK to version"⟩]
  let package := Path.join directory packageFile
  let current ← Action.ofExcept (kitVersion (← readPackage package) package)
  Action.report [⟨.info, .scaffold, "Current SDK version"⟩]
  let managed ← managedFiles.mapM fun name => upgradeFile directory name false
  let seeded ← seededFiles.mapM fun name => upgradeFile directory name true
  let report : UpgradeReport := ⟨target, current, managed ++ seeded⟩
  if report.upgradeRequired then
    Action.report [⟨.warn, .scaffold, upgradeAdvice target⟩]
  Action.report [⟨.info, .scaffold, "Upgrade complete"⟩]
  return report

end Scaffold

end ProgramConnector
