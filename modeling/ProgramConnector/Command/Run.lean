import ProgramConnector.Command.Help
import ProgramConnector.Project.Update
import ProgramConnector.Report.Filter
import ProgramConnector.Scaffold.Upgrade
import ProgramConnector.Settings.Load

/-!
# Runs

A run of the program: its arguments and its environment decide what is done to the files, what is
logged, and how the run ends. It ends with 0 when all went well, with 1 when the task failed, and
with 2 when the arguments are wrong.
-/

namespace ProgramConnector.Command

/-- Why a task fails. -/
inductive TaskFailure where
  /-- The settings cannot be loaded. -/
  | settings (fault : SettingsFault)
  /-- The modules cannot be generated. -/
  | update (failure : Failure)
  /-- The scaffold cannot be upgraded. -/
  | upgrade (failure : Failure)
deriving DecidableEq

/-- The text of a failed task. -/
def TaskFailure.message : TaskFailure → String
  | .settings fault => "Failed to load generator settings: " ++ fault.message
  | .update failure => "Failed to generate program functions: " ++ failure.chain
  | .upgrade failure => "Failed to upgrade connector configuration: " ++ failure.chain

/-- How a run ends. -/
structure Outcome where
  /-- The exit code. -/
  exitCode : Nat
  /-- What is printed. -/
  output : String := ""
  /-- The error that is shown to the user. -/
  error : Option String := none
  /-- The events that are logged. -/
  logged : List Event := []
  /-- Whether log lines are made for people. -/
  pretty : Bool := false
deriving DecidableEq

/-- The log settings of an environment. -/
def logSettings (environment : Environment) : LogSettings :=
  .ofValues (Members.find? "HASURA_PLUGIN_LOG_LEVEL" environment)
    (Members.find? "PRETTY_LOGS" environment)

/-- The log filter of an environment: the one that is set, if it is well-formed, or else that of the
log settings. -/
def logFilter (environment : Environment) : LogFilter :=
  ((Members.find? "RUST_LOG" environment).bind LogFilter.ofText?).getD
    (.ofSettings (logSettings environment))

/-- The settings of an invocation. -/
def settingsOf (files : FileSystem) (environment : Environment) (invocation : Invocation) :
    Except SettingsFault Settings :=
  (Settings.load files environment invocation.settingsFile).map fun settings =>
    { settings with root := invocation.root.getD settings.root }

/-- Does a task: the world after it, and why it fails if it does. -/
def perform (settings : Settings) (task : Task) (world : World) : Option TaskFailure × World :=
  match task with
  | .update options =>
    match (Project.update settings options).runIn world with
    | (.ok _, after) => (none, after)
    | (.error failure, after) => (some (.update failure), after)
  | .upgrade =>
    match (Scaffold.upgrade settings.root).runIn world with
    | (.ok _, after) => (none, after)
    | (.error failure, after) => (some (.upgrade failure), after)

/-- Loads the settings of an invocation and does its task. -/
def execute (environment : Environment) (invocation : Invocation) (files : FileSystem) :
    Option TaskFailure × World :=
  match settingsOf files environment invocation with
  | .ok settings => perform settings invocation.task ⟨files, []⟩
  | .error fault => (some (.settings fault), ⟨files, []⟩)

/-- The event of a failed task. -/
def failureEvent : Event := ⟨.error, .command, "Command failed"⟩

/-- How a run ends whose task has been done or has failed. -/
def outcomeOf (environment : Environment) (failure : Option TaskFailure) (events : List Event) :
    Outcome :=
  let reported := events ++ (if failure.isSome then [failureEvent] else [])
  ⟨if failure.isSome then 1 else 0, "", failure.map TaskFailure.message,
    reported.filter (logFilter environment).passes, (logSettings environment).pretty⟩

/-- Runs the program: how the run ends, and the files after it. -/
def run (environment : Environment) (arguments : List String) (files : FileSystem) :
    Outcome × FileSystem :=
  match Request.ofArguments environment arguments with
  | .misuse => (⟨2, "", none, [], (logSettings environment).pretty⟩, files)
  | .version => (⟨0, versionLine, none, [], (logSettings environment).pretty⟩, files)
  | .help topic => (⟨0, topic.text, none, [], (logSettings environment).pretty⟩, files)
  | .run invocation =>
    let (failure, world) := execute environment invocation files
    (outcomeOf environment failure world.events, world.files)

end ProgramConnector.Command
