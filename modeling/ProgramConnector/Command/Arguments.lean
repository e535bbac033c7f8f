import ProgramConnector.Settings.Basic
import ProgramConnector.Wrapper.Basic

/-!
# Arguments

What the arguments of a run ask for. Arguments are read from left to right, options of the whole
program before or behind the name of a subcommand, and the first argument that is wrong or that asks
for help decides. Switches that are not given come from the environment, and the words for their
values may be in upper or lower case.
-/

namespace ProgramConnector.Command

/-- What help is about. -/
inductive Topic where
  /-- The whole program. -/
  | program
  /-- Updates. -/
  | update
  /-- Upgrades. -/
  | upgrade
  /-- Help itself. -/
  | help
deriving DecidableEq

/-- A subcommand. -/
inductive Subcommand where
  /-- Generates the modules of a project. -/
  | update
  /-- Upgrades the scaffold of a project. -/
  | upgrade
deriving DecidableEq

namespace Subcommand

/-- The name of a subcommand. -/
def name : Subcommand → String
  | .update => "update"
  | .upgrade => "upgrade-configuration"

/-- The help topic of a subcommand. -/
def topic : Subcommand → Topic
  | .update => .update
  | .upgrade => .upgrade

/-- The subcommand of a name. -/
def ofName? (word : String) : Option Subcommand :=
  [update, upgrade].find? fun subcommand => subcommand.name == word

end Subcommand

/-- What a subcommand is to do. -/
inductive Task where
  /-- Generates the modules of a project. -/
  | update (options : Wrapper.Options)
  /-- Upgrades the scaffold of a project. -/
  | upgrade
deriving DecidableEq

/-- A task with the options of the whole program. -/
structure Invocation where
  /-- The settings file. -/
  settingsFile : Option String
  /-- The directory of the project. -/
  root : Option String
  /-- The task. -/
  task : Task
deriving DecidableEq

/-- What arguments ask for. -/
inductive Request where
  /-- A task. -/
  | run (invocation : Invocation)
  /-- Help. -/
  | help (topic : Topic)
  /-- The version of the program. -/
  | version
  /-- The arguments are wrong. -/
  | misuse
deriving DecidableEq

/-- An option with a value. -/
inductive OptionName where
  /-- The settings file. -/
  | settingsFile
  /-- The directory of the project. -/
  | root
  /-- The readonly flag of programs without one of their own. -/
  | defaultReadonly
deriving DecidableEq

/-- The options that have been given at one level, before or behind the name of a subcommand. -/
structure Given where
  /-- The settings file. -/
  settingsFile : Option String := none
  /-- The directory of the project. -/
  root : Option String := none
  /-- The readonly flag. -/
  defaultReadonly : Option Bool := none
  /-- Whether relaxed types are asked for. -/
  relaxedTypes : Bool := false
deriving DecidableEq

/-- Words for true. -/
def trueWords : List String := ["y", "yes", "t", "true", "on", "1"]

/-- Words for false. -/
def falseWords : List String := ["n", "no", "f", "false", "off", "0"]

/-- The truth value of a word. -/
def boolish? (word : String) : Option Bool :=
  let word := String.ofList (Text.lower word.toList)
  if trueWords.contains word then some true
  else if falseWords.contains word then some false
  else none

/-- A path that an option gives: not empty, and given once. -/
def givenPath? (before : Option String) (value : String) : Option (Option String) :=
  if before.isSome || value.isEmpty then none else some (some value)

/-- The options with one more value, if it is given once and has the right form. -/
def Given.set? (given : Given) (name : OptionName) (value : String) : Option Given :=
  match name with
  | .settingsFile =>
    (givenPath? given.settingsFile value).map fun path => { given with settingsFile := path }
  | .root => (givenPath? given.root value).map fun path => { given with root := path }
  | .defaultReadonly =>
    if given.defaultReadonly.isSome then none
    else (boolish? value).map fun flag => { given with defaultReadonly := some flag }

/-- The option of a long name. -/
def longOption? (subcommand : Option Subcommand) (name : String) : Option OptionName :=
  if name == "config" then some .settingsFile
  else if name == "root" then some .root
  else if name == "default-readonly" && subcommand == some .update then some .defaultReadonly
  else none

/-- The option of a letter. -/
def shortOption? (letter : Char) : Option OptionName :=
  if letter == 'c' then some .settingsFile
  else if letter == 'r' then some .root
  else none

/-- What an argument is. -/
inductive Argument where
  /-- A word that is no option. -/
  | word
  /-- Two hyphens, behind which there are no options. -/
  | escape
  /-- An option with its value in the same argument. -/
  | valued (name : OptionName) (value : String)
  /-- An option whose value is the next argument. -/
  | expecting (name : OptionName)
  /-- The switch for relaxed types. -/
  | relaxedTypes
  /-- A call for help. -/
  | help
  /-- A question for the version. -/
  | version
  /-- An option that is not known here, or a switch with a value. -/
  | unknown
deriving DecidableEq

namespace Argument

/-- An argument with two hyphens, without them. -/
def ofLong (subcommand : Option Subcommand) (text : List Char) : Argument :=
  let name := String.ofList (text.takeWhile (· != '='))
  match longOption? subcommand name, text.dropWhile (· != '=') with
  | some option, [] => .expecting option
  | some option, _ :: value => .valued option (String.ofList value)
  | none, _ :: _ => .unknown
  | none, [] =>
    if name == "help" then .help
    else if name == "version" && subcommand.isNone then .version
    else if name == "allow-relaxed-types" && subcommand == some .update then .relaxedTypes
    else .unknown

/-- An argument with one hyphen, without it: a letter, and what is behind it. -/
def ofShort (subcommand : Option Subcommand) (letter : Char) (rest : List Char) : Argument :=
  match shortOption? letter, rest with
  | some option, [] => .expecting option
  | some option, '=' :: value => .valued option (String.ofList value)
  | some option, value => .valued option (String.ofList value)
  | none, _ =>
    if letter == 'h' then .help
    else if letter == 'V' && subcommand.isNone then .version
    else .unknown

/-- What a text is as an argument. -/
def ofText (subcommand : Option Subcommand) (text : String) : Argument :=
  match text.toList with
  | ['-', '-'] => .escape
  | '-' :: '-' :: rest => ofLong subcommand rest
  | '-' :: letter :: rest => ofShort subcommand letter rest
  | _ => .word

end Argument

/-- A switch of the environment, if it is set and has the right form; the outer option is empty when
it does not. -/
def switchOf? (environment : Environment) (name : String) (default : Bool) : Option Bool :=
  match Members.find? name environment with
  | some word => boolish? word
  | none => some default

/-- The wrapper options of an update. -/
def updateOptions? (environment : Environment) (given : Given) : Option Wrapper.Options := do
  let relaxed ←
    if given.relaxedTypes then some true else switchOf? environment "ALLOW_RELAXED_TYPES" false
  let readonly ←
    match given.defaultReadonly with
    | some flag => some flag
    | none => switchOf? environment "DEFAULT_READONLY" true
  return ⟨relaxed, readonly⟩

/-- The task of a subcommand. -/
def task? (environment : Environment) (given : Given) : Subcommand → Option Task
  | .update => (updateOptions? environment given).map Task.update
  | .upgrade => some .upgrade

/-- What is asked for when all arguments have been read. An option behind the name of the subcommand
goes before the same option in front of it. -/
def finish (environment : Environment) (subcommand : Option Subcommand) (outer given : Given) :
    Request :=
  match subcommand.bind (task? environment given) with
  | some task =>
    .run ⟨given.settingsFile <|> outer.settingsFile, given.root <|> outer.root, task⟩
  | none => .misuse

/-- What help is asked for. -/
def helpRequest : List String → Request
  | [] => .help .program
  | [word] =>
    if word == "help" then .help .help
    else
      match Subcommand.ofName? word with
      | some subcommand => .help subcommand.topic
      | none => .misuse
  | _ => .misuse

/-- Reads arguments. The name of the subcommand is known behind it, `outer` are the options in front
of it and `given` those at the present level, and `waiting` is an option that waits for its value.
-/
def readArguments (environment : Environment) (subcommand : Option Subcommand) (outer given : Given)
    (waiting : Option OptionName) : List String → Request
  | [] => if waiting.isSome then .misuse else finish environment subcommand outer given
  | text :: rest =>
    match waiting, Argument.ofText subcommand text with
    | some name, .word =>
      match given.set? name text with
      | some given => readArguments environment subcommand outer given none rest
      | none => .misuse
    | some _, _ => .misuse
    | none, .word =>
      match subcommand, Subcommand.ofName? text with
      | none, some found => readArguments environment (some found) given {} none rest
      | none, none => if text == "help" then helpRequest rest else .misuse
      | some _, _ => .misuse
    | none, .escape =>
      if rest.isEmpty then finish environment subcommand outer given else .misuse
    | none, .valued name value =>
      match given.set? name value with
      | some given => readArguments environment subcommand outer given none rest
      | none => .misuse
    | none, .expecting name => readArguments environment subcommand outer given (some name) rest
    | none, .relaxedTypes =>
      if given.relaxedTypes then .misuse
      else
        readArguments environment subcommand outer { given with relaxedTypes := true } none rest
    | none, .help => .help ((subcommand.map Subcommand.topic).getD .program)
    | none, .version => .version
    | none, .unknown => .misuse

/-- What arguments ask for. -/
def Request.ofArguments (environment : Environment) (arguments : List String) : Request :=
  readArguments environment none {} {} none arguments

end ProgramConnector.Command
