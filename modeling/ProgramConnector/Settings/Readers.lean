import ProgramConnector.Files.FileSystem
import ProgramConnector.Settings.Basic
import ProgramConnector.Settings.Variables
import ProgramConnector.Text.Lenient
import ProgramConnector.Toml.Document

/-!
# Readers of settings

What a settings file says, what variables say and where the user keeps files for programs is not for
the program to decide: loading takes the readers for them as they are. The standard ones read TOML
and JSON. Readers of other formats, and the directory of an account that the environment does not
tell, come with readers of their own.
-/

namespace ProgramConnector

/-- Why settings cannot be loaded. -/
inductive SettingsFault where
  /-- There is no file of a known format. -/
  | missing (path : String)
  /-- A file is ill-formed. -/
  | illFormed (path : String)
  /-- A setting has a value of the wrong form. -/
  | mismatched
deriving DecidableEq

/-- The text of a fault. -/
def SettingsFault.message : SettingsFault → String
  | .missing path => "configuration file \"" ++ path ++ "\" not found"
  | .illFormed path => "configuration file \"" ++ path ++ "\" is not well-formed"
  | .mismatched => "a setting has a value of the wrong form"

namespace Settings

/-- The formats of settings files. -/
inductive Format where
  /-- Tables and keys line by line. -/
  | toml
  /-- A document with an object. -/
  | json
deriving DecidableEq

namespace Format

/-- The formats in the order in which they are tried. -/
def all : List Format := [.toml, .json]

/-- The extension of files of a format. -/
def extension : Format → String
  | .toml => "toml"
  | .json => "json"

/-- The format of files with an extension. -/
def ofExtension? (extension : List Char) : Option Format :=
  all.find? fun format => format.extension.toList == extension

/-- The settings of a text. -/
def entries? (format : Format) (source : String) : Option (List (String × SettingValue)) :=
  match format with
  | .toml => Toml.ofText? source
  | .json =>
    match Json.ofText source with
    | .ok (.obj members) => some (SettingValue.entriesOfJson members)
    | _ => none

end Format

/-- Whether a path leads to a regular file. -/
def isRegularFile (files : FileSystem) (path : String) : Bool :=
  match files.node true path with
  | .ok node => node.isFile
  | .error _ => false

/-- The file for a path: the one at the path itself, if its extension is known, or else one with a
known extension added. -/
def locate? (files : FileSystem) (path : String) : Option (String × Format) :=
  if isRegularFile files path then
    ((Path.extension? path).bind Format.ofExtension?).map fun format => (path, format)
  else
    (Path.fileName? path).bind fun _ =>
      Format.all.findSome? fun format =>
        let candidate := FileSystem.withoutEndSlashes path ++ "." ++ format.extension
        if isRegularFile files candidate then some (candidate, format) else none

/-- Bytes without the mark that some editors put in front of a text. -/
def withoutMark : List UInt8 → List UInt8
  | 0xEF :: 0xBB :: 0xBF :: rest => rest
  | bytes => bytes

/-- The text of a settings file. -/
def textOfBytes (content : ByteArray) : String :=
  String.ofList (Text.decodeLeniently (withoutMark content.data.toList))

/-- The settings of the file for a path, if there is one. -/
def entriesOfFile (files : FileSystem) (path : String) :
    Except SettingsFault (Option (List (String × SettingValue))) :=
  match locate? files path with
  | none => .ok none
  | some (found, format) =>
    match files.read found with
    | .error _ => .ok none
    | .ok content =>
      match format.entries? (textOfBytes content) with
      | some entries => .ok (some (entries.map fun (key, value) => entryOfKey key.toList value))
      | none => .error (.illFormed found)

/-- The home directory of the user: the one that the environment names, or else that of the
account. -/
def homeDirectory? (account : Option String) (environment : Environment) : Option String :=
  ((Members.find? "HOME" environment).filter fun home => !home.isEmpty) <|> account

/-- The directory of the user for the configuration of this program. -/
def userDirectory? (account : Option String) (environment : Environment) : Option String :=
  (homeDirectory? account environment).map fun home =>
    let shared := (Members.find? "XDG_CONFIG_HOME" environment).filter Path.isAbsolute
    Path.join (shared.getD (Path.join home ".config")) "programs-codegen"

/-- What reads the sources of settings. -/
structure Readers where
  /-- The settings of the file that a path stands for, if there is one that can be read. -/
  ofFile : FileSystem → String → Except SettingsFault (Option (List (String × SettingValue)))
  /-- The settings of the variables of an environment. -/
  ofVariables : Environment → List (String × SettingValue)
  /-- The directory of the user for the configuration of this program. -/
  directory? : Environment → Option String

/-- The readers of TOML and JSON, for an account with a home directory if it has one. -/
def Readers.standard (account : Option String := none) : Readers where
  ofFile := entriesOfFile
  ofVariables := entriesOfVariables
  directory? := userDirectory? account

end Settings

end ProgramConnector
