import ProgramConnector.Report.Event
import ProgramConnector.Report.Verbosity
import ProgramConnector.Text.Lines

/-!
# Log filters

A filter is a list of directives with commas between them. A directive gives the least level of the
events that are logged, for all targets or for those that start with a given name. Of the directives
for a target the one with the longest name decides, and of several with the same name the last.
-/

namespace ProgramConnector

/-- A directive of a log filter. -/
structure Directive where
  /-- What the targets start with. -/
  target : List Char
  /-- The least level that is logged; without one nothing is. -/
  least : Option Level
deriving DecidableEq

namespace Directive

/-- The directive for no other: errors of all targets. -/
def errors : Directive := ⟨[], some .error⟩

/-- The names of levels, with their numbers. -/
def levelNames : List (String × String × Option Level) := [
  ("off", "0", none),
  ("error", "1", some .error),
  ("warn", "2", some .warn),
  ("info", "3", some .info),
  ("debug", "4", some .debug),
  ("trace", "5", some .trace)]

/-- The level of a name in upper or lower case, or of a number. -/
def level? (name : List Char) : Option (Option Level) :=
  let word := String.ofList (name.map Char.toLower)
  (levelNames.find? fun (text, number, _) => word == text || word == number).map fun entry =>
    entry.2.2

/-- A character of a target. -/
def isTargetChar (c : Char) : Bool := Text.isAlphanumeric c || c == '_' || c == ':' || c == '-'

/-- The target and the level of a directive with both; a level that is left out stands for all
events. -/
def ofTarget? (target : List Char) (level : List Char) : Option Directive :=
  if target.isEmpty || !target.all isTargetChar then none
  else if level.isEmpty then some ⟨target, some .trace⟩
  else (level? level).map fun least => ⟨target, least⟩

/-- The directive of a text. -/
def ofText? (text : List Char) : Option Directive :=
  match level? text with
  | some least => some ⟨[], least⟩
  | none => ofTarget? (text.takeWhile (· != '=')) ((text.dropWhile (· != '=')).drop 1)

/-- Whether a directive is for a target. -/
def isFor (directive : Directive) (target : List Char) : Bool :=
  directive.target.isPrefixOf target

end Directive

/-- A log filter. -/
structure LogFilter where
  /-- The directives. -/
  directives : List Directive
deriving DecidableEq

namespace LogFilter

/-- The filter of a text, if all its directives are well-formed. Without any, errors are logged. -/
def ofText? (text : String) : Option LogFilter :=
  let pieces := (Text.splitAt ',' text.toList).filter fun piece => !piece.isEmpty
  (pieces.mapM Directive.ofText?).map fun directives =>
    ⟨if directives.isEmpty then [.errors] else directives⟩

/-- The directive that decides for a target, later directives being looked at first. -/
def deciding? (target : List Char) : List Directive → Option Directive
  | [] => none
  | directive :: rest =>
    match directive.isFor target, deciding? target rest with
    | false, later => later
    | true, none => some directive
    | true, some later =>
      if later.target.length < directive.target.length then some directive else some later

/-- Whether an event is logged. -/
def passes (filter : LogFilter) (event : Event) : Bool :=
  match (deciding? event.part.target.toList filter.directives).bind (·.least) with
  | some least => least.rank ≤ event.level.rank
  | none => false

/-- The filter for log settings. -/
def ofSettings (settings : LogSettings) : LogFilter :=
  (ofText? settings.verbosity.directive).getD ⟨[.errors]⟩

end LogFilter

end ProgramConnector
