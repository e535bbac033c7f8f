import ProgramConnector.Failure
import ProgramConnector.Schema.Titles
import ProgramConnector.TypeScript.Compiler
import ProgramConnector.Wrapper.Basic

/-!
# Connector modules

The two generated modules of a connector: the types of every program, input before output, and the
wrapper functions. A failure is that of the first program that fails.
-/

namespace ProgramConnector

/-- The generated modules. -/
structure Connector where
  /-- The text of the types module. -/
  types : String
  /-- The text of the functions module. -/
  functions : String
  /-- The number of programs. -/
  programCount : Nat
deriving DecidableEq

namespace Connector

/-- The block of types of one schema of a program, declared under `typeName`. -/
def typeBlock (profile : TypeScript.Profile) (file : String) (schema : Schema)
    (typeName : String) : Except Failure String :=
  match TypeScript.compile (schema.titled typeName) typeName profile with
  | .ok block => .ok block
  | .error error => .error (.typeCompile typeName file error.message)

/-- A schema that has to be present. -/
def presentSchema (field file : String) : Option Schema → Except Failure Schema
  | some schema => .ok schema
  | none => .error (.missingField field file)

/-- The two blocks of types of a program. -/
def programBlocks (profile : TypeScript.Profile) (program : Program) :
    Except Failure (List String) := do
  let body := program.artifact.body
  let input ← presentSchema "input_schema" program.file body.inputSchema
  let output ← presentSchema "output_schema" program.file body.outputSchema
  let inputBlock ← typeBlock profile program.file input program.names.inputType
  let outputBlock ← typeBlock profile program.file output program.names.outputType
  return [inputBlock, outputBlock]

/-- The types module of programs. -/
def typesModule (profile : TypeScript.Profile) (programs : List Program) :
    Except Failure String := do
  let blocks ← programs.mapM (programBlocks profile)
  return "\n".intercalate blocks.flatten

/-- The connector of programs. -/
def ofPrograms (profile : TypeScript.Profile) (options : Wrapper.Options)
    (programs : List Program) : Except Failure Connector := do
  return ⟨← typesModule profile programs, Wrapper.renderModule programs options, programs.length⟩

end Connector

end ProgramConnector
