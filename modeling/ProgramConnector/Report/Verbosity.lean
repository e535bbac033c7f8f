/-!
# Verbosity

How much is logged, by the names that users of the connector tools give to levels, and whether log
lines are made for people or for programs.
-/

namespace ProgramConnector

/-- A log level by the name that users give it. -/
inductive Verbosity where
  /-- Everything. -/
  | trace
  /-- Detail and more important events. -/
  | debug
  /-- The course of a run and more important events. -/
  | info
  /-- Warnings and errors. -/
  | warn
  /-- Errors. -/
  | error
  /-- Errors. -/
  | fatal
  /-- Nothing. -/
  | panic
deriving DecidableEq

namespace Verbosity

/-- The verbosity of a name. An unknown name stands for `info`. -/
def ofName (name : String) : Verbosity :=
  if name == "trace" then .trace
  else if name == "debug" then .debug
  else if name == "warn" then .warn
  else if name == "error" then .error
  else if name == "fatal" then .fatal
  else if name == "panic" then .panic
  else .info

/-- The name of a verbosity with a capital. -/
def label : Verbosity → String
  | .trace => "Trace"
  | .debug => "Debug"
  | .info => "Info"
  | .warn => "Warn"
  | .error => "Error"
  | .fatal => "Fatal"
  | .panic => "Panic"

/-- The directive of a log filter for a verbosity. -/
def directive : Verbosity → String
  | .trace => "trace"
  | .debug => "debug"
  | .info => "info"
  | .warn => "warn"
  | .error => "error"
  | .fatal => "error"
  | .panic => "off"

end Verbosity

/-- How a run logs. -/
structure LogSettings where
  /-- How much is logged. -/
  verbosity : Verbosity
  /-- Whether log lines are made for people. -/
  pretty : Bool
deriving DecidableEq

/-- The log settings of the texts that are set for them. -/
def LogSettings.ofValues (level pretty : Option String) : LogSettings :=
  ⟨(level.map Verbosity.ofName).getD .info, pretty == some "true"⟩

end ProgramConnector
