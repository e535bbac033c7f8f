import ProgramConnector.Files.FileSystem
import ProgramConnector.Report.Event

/-!
# Actions

An action works on the files of a project and reports events. It may fail half-way: what it has
written and reported until then stays.
-/

namespace ProgramConnector

/-- What an action changes. -/
structure World where
  /-- The files. -/
  files : FileSystem
  /-- The events that have been reported, in order. -/
  events : List Event := []

/-- A computation that changes the world and may fail. -/
abbrev Action (α : Type) := ExceptT Failure (StateM World) α

namespace Action

variable {α : Type}

/-- The result of an action and the world after it. -/
def runIn (world : World) (action : Action α) : Except Failure α × World :=
  (ExceptT.run action).run world

/-- Reports events. -/
def report (events : List Event) : Action Unit :=
  modify fun world => { world with events := world.events ++ events }

/-- The files as they are now. -/
def files : Action FileSystem := do return (← get).files

/-- Puts files in place of those that are there. -/
def setFiles (files : FileSystem) : Action Unit := modify fun world => { world with files := files }

/-- A value, or the failure of the action. -/
def ofExcept : Except Failure α → Action α
  | .ok value => pure value
  | .error failure => throw failure

/-- A value leaves the world alone. -/
@[simp]
theorem runIn_pure (world : World) (value : α) :
    runIn world (pure value) = (.ok value, world) := rfl

/-- The second of two actions runs in the world that the first one leaves, unless that fails. -/
theorem runIn_bind {β : Type} (world : World) (first : Action α) (next : α → Action β) :
    runIn world (first >>= next) =
      match runIn world first with
      | (.ok value, after) => runIn after (next value)
      | (.error failure, after) => (.error failure, after) := by
  simp only [runIn, ExceptT.run_bind, StateT.run_bind]
  rcases (ExceptT.run first).run world with ⟨_ | _, _⟩ <;> rfl

/-- A value or a failure leaves the world alone. -/
@[simp]
theorem runIn_ofExcept (world : World) (outcome : Except Failure α) :
    runIn world (ofExcept outcome) = (outcome, world) := by
  cases outcome <;> rfl

/-- A report leaves the files alone. -/
@[simp]
theorem runIn_report (world : World) (events : List Event) :
    runIn world (report events) = (.ok (), { world with events := world.events ++ events }) := rfl

/-- A change of files, with the path that a fault is reported for. -/
def change (path : String) (step : FileSystem → Except OsError FileSystem) : Action Unit := do
  match step (← files) with
  | .ok changed => setFiles changed
  | .error fault => throw (.io path fault)

/-- The permission bits of every written file, so that any user may write it again. -/
def outputMode : Nat := 0o666

/-- A file that has been written may be read. -/
theorem mayRead_outputMode : FileSystem.mayRead outputMode = true := by decide

/-- A file that has been written may be written again. -/
theorem mayWrite_outputMode : FileSystem.mayWrite outputMode = true := by decide

/-- Makes the directory of a file that is to be written. -/
def prepareParent (path : String) : Action Unit := do
  if let some parent := (Path.parent? path).filter fun parent => !parent.isEmpty then
    let (made, outcome) := (← files).makeDirectories parent
    setFiles made
    if let .error fault := outcome then throw (.io parent fault)

/-- Writes a text to a file, with the directories above it. -/
def writeOutput (path text : String) : Action Unit := do
  prepareParent path
  change path fun files => files.write path text.toUTF8
  change path fun files => files.setMode path outputMode
  report [⟨.debug, .writer, "Wrote output file"⟩]

end Action

end ProgramConnector
