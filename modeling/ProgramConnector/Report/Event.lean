/-!
# Events

What a run reports while it works: a level, the part of the program that reports, and a message.
-/

namespace ProgramConnector

/-- The weight of an event, the lightest first. -/
inductive Level where
  /-- Finest detail. -/
  | trace
  /-- Detail for those who look into a run. -/
  | debug
  /-- The course of a run. -/
  | info
  /-- Something that a user should look at. -/
  | warn
  /-- The failure of a run. -/
  | error
deriving DecidableEq

/-- The part of the program that reports an event. -/
inductive Part where
  /-- Loading of programs. -/
  | loader
  /-- Compilation of types. -/
  | codegen
  /-- Writing of files. -/
  | writer
  /-- An update from beginning to end. -/
  | pipeline
  /-- Upgrades of the scaffold. -/
  | scaffold
  /-- The command line. -/
  | command
deriving DecidableEq

/-- A reported event. -/
structure Event where
  /-- The level. -/
  level : Level
  /-- The part that reports. -/
  part : Part
  /-- The message. -/
  message : String
deriving DecidableEq

/-- The place of a level among the levels. -/
def Level.rank : Level → Nat
  | .trace => 0
  | .debug => 1
  | .info => 2
  | .warn => 3
  | .error => 4

/-- The name of a level as it is logged. -/
def Level.label : Level → String
  | .trace => "TRACE"
  | .debug => "DEBUG"
  | .info => "INFO"
  | .warn => "WARN"
  | .error => "ERROR"

/-- The name under which a part logs its events. -/
def Part.target : Part → String
  | .loader => "programs_codegen::loader"
  | .codegen => "programs_codegen::codegen"
  | .writer => "programs_codegen::writer"
  | .pipeline => "programs_codegen::pipeline"
  | .scaffold => "programs_codegen::scaffold"
  | .command => "ndc_promptql_programs"

end ProgramConnector
