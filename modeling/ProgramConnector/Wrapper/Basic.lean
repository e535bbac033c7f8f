import ProgramConnector.Program.Basic
import ProgramConnector.TypeScript.DocComment

/-!
# Wrapper functions

Every program becomes one asynchronous function. It embeds the code and forwards its headers and its
input to the endpoint that executes programs. The functions of a module follow a fixed header.

Code is embedded between backticks. A backslash goes before every backslash, backtick and dollar
sign, so that neither the end of the literal nor a substitution can come from the code.
-/

namespace ProgramConnector.Wrapper

open TypeScript

/-- Switches of the generated functions. -/
structure Options where
  /-- Whether every function is tagged for relaxed types. -/
  allowRelaxedTypes : Bool := false
  /-- The readonly flag of programs that have none of their own. -/
  readonlyDefault : Bool := true
deriving DecidableEq

/-- The reader of options. -/
def Options.reader : Reader Options :=
  Reader.record {} [
    Field.of "allow_relaxed_types" Reader.flag fun value options =>
      { options with allowRelaxedTypes := value },
    Field.of "readonly_default" Reader.flag fun value options =>
      { options with readonlyDefault := value }]

/-- The header of the functions module. -/
def header : String :=
  "import * as sdk from \"@hasura/ndc-lambda-sdk\";\n" ++
  "import * as types from \"./types\";\n" ++
  "import * as utils from \"./utils\";\n" ++
  "\n" ++
  "const buildVersion = process.env[\"PROMPTQL_BUILD_VERSION\"];\n" ++
  "const apiKey = utils.mustEnv(\"PROMPTQL_API_KEY\");\n" ++
  "const executeProgramEndpoint = utils.mustEnv(\n" ++
  "  \"PROMPTQL_EXECUTE_PROGRAM_ENDPOINT\"\n" ++
  ");\n" ++
  "\n"

/-- The lines of the comment of a function: its description and its tags. -/
def docLines (program : Program) (options : Options) : List (List Char) :=
  ((program.description.map commentLines).getD [])
    ++ (if program.readonlyOr options.readonlyDefault then ["@readonly".toList] else [])
    ++ (if options.allowRelaxedTypes then ["@allowrelaxedtypes".toList] else [])

/-- The comment of a function, or nothing when there is nothing to say. -/
def docBlock (program : Program) (options : Options) : String :=
  let lines := docLines program options
  if lines.isEmpty then "" else commentBlock "" lines

/-- A character of code inside a template literal. -/
def escapedCodeChar (c : Char) : List Char :=
  if c == '\\' || c == '\x60' || c == '$' then ['\\', c] else [c]

/-- Code as it stands inside a template literal. -/
def escapeCode (code : String) : String := String.ofList (code.toList.flatMap escapedCodeChar)

/-- The function of a program without its comment. -/
def functionText (names : DerivedNames) (code : String) : String :=
  "export async function " ++ names.function ++ "(\n" ++
  "  headers: sdk.JSONValue,\n" ++
  "  input: types." ++ names.inputType ++ "\n" ++
  "): Promise<utils.ProgramOutput<types." ++ names.outputType ++ ">> \x7b\n" ++
  "  const code = \x60" ++ escapeCode code ++ "\x60;\n" ++
  "  const body = utils.prepareExecuteProgramBody(\n" ++
  "    headers,\n" ++
  "    input,\n" ++
  "    code,\n" ++
  "    buildVersion\n" ++
  "  );\n" ++
  "  const response = await utils.makeExecuteProgramRequest<\n" ++
  "    types." ++ names.inputType ++ ",\n" ++
  "    types." ++ names.outputType ++ "\n" ++
  "  >(body, apiKey, executeProgramEndpoint);\n" ++
  "  return response;\n" ++
  "\x7d\n"

/-- The function of a program. -/
def render (program : Program) (options : Options) : String :=
  docBlock program options ++ functionText program.names program.code

/-- The functions module of programs, with an empty line between neighbours. -/
def renderModule (programs : List Program) (options : Options) : String :=
  header ++ "\n".intercalate (programs.map fun program => render program options)

end ProgramConnector.Wrapper
