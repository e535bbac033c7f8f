import ProgramConnector.Failure
import ProgramConnector.Files.Path
import ProgramConnector.Scaffold.Bundle

/-!
# Packages

The bundled files by name, and the version of the connector kit that a package description asks for.
-/

namespace ProgramConnector.Scaffold

/-- The package of the connector kit. -/
def kitPackage : String := "@hasura/ndc-lambda-sdk"

/-- The name of a package description. -/
def packageFile : String := "package.json"

/-- The bundled files with their names. -/
def bundle : List (String × String) := [
  ("utils.ts", runtimeHelpers),
  ("configuration.schema.json", configurationSchema),
  ("configuration.json", emptyConfiguration),
  (packageFile, packageDescription)]

/-- The bundled file of a name. -/
def bundled (name : String) : Except Failure String :=
  match bundle.find? fun (path, _) => Path.same path name with
  | some (_, text) => .ok text
  | none => .error (.scaffold ("template not bundled: " ++ name))

/-- The version of the kit among the dependencies of a package description. -/
def kitVersionOf? (description : Json) : Option String :=
  (description.get? "dependencies").bind fun dependencies =>
    (dependencies.get? kitPackage).bind Json.text?

/-- The version of the kit in the text of a package description, which stands at `source`. -/
def kitVersion (text source : String) : Except Failure String :=
  match Json.ofText text with
  | .error problem => .error (.unreadable source problem)
  | .ok description =>
    match kitVersionOf? description with
    | some version => .ok version
    | none =>
      .error (.scaffold (kitPackage ++ " not found in dependencies at " ++ source))

end ProgramConnector.Scaffold
