import ProgramConnector.Text.Quoted
import ProgramConnector.Json.Reader

/-!
# Failures

Everything that keeps a command from its result, with the text that a user sees. The texts of
problems found by readers are their kinds alone.
-/

namespace ProgramConnector

/-- A fault reported by the operating system, or met while a file is read as text. -/
inductive OsError where
  /-- There is nothing at the path. -/
  | notFound
  /-- The permission bits of the file do not allow it. -/
  | permissionDenied
  /-- There is something at the path already. -/
  | alreadyExists
  /-- A part of the path is no directory. -/
  | notADirectory
  /-- The path leads to a directory. -/
  | isADirectory
  /-- A name in the path is too long. -/
  | nameTooLong
  /-- The path goes through too many links. -/
  | tooManyLinks
  /-- A name in the path holds the null character. -/
  | nullInName
  /-- The bytes of the file are not text. -/
  | invalidText
deriving DecidableEq

/-- The text of a fault. -/
def OsError.message : OsError → String
  | .notFound => "No such file or directory (os error 2)"
  | .permissionDenied => "Permission denied (os error 13)"
  | .alreadyExists => "File exists (os error 17)"
  | .notADirectory => "Not a directory (os error 20)"
  | .isADirectory => "Is a directory (os error 21)"
  | .nameTooLong => "File name too long (os error 36)"
  | .tooManyLinks => "Too many levels of symbolic links (os error 40)"
  | .nullInName => "file name contained an unexpected NUL byte"
  | .invalidText => "stream did not contain valid UTF-8"

/-- The text of a problem. -/
def Problem.message : Problem → String
  | .truncated => "the text ends too early"
  | .malformed => "the text is not a document"
  | .mismatched => "the document is not of the expected form"

/-- Why a command fails. -/
inductive Failure where
  /-- The directory of programs does not exist. -/
  | missingDirectory (path : String)
  /-- A file does not hold the expected document. -/
  | unreadable (path : String) (problem : Problem)
  /-- Two programs have the same function name. -/
  | duplicateName (title path : String)
  /-- A field of an artifact is missing. -/
  | missingField (field path : String)
  /-- A title does not give the name of a function. -/
  | invalidName (title name path : String)
  /-- A schema cannot be compiled. -/
  | typeCompile (typeName path reason : String)
  /-- A file cannot be read or written. -/
  | io (path : String) (error : OsError)
  /-- A directory cannot be walked. -/
  | walk (path : String) (error : OsError)
  /-- The scaffold does not fit. -/
  | scaffold (reason : String)
deriving DecidableEq

/-- The text of a failure. -/
def Failure.message : Failure → String
  | .missingDirectory path => "Directory does not exist: " ++ path
  | .unreadable path problem => "Failed to read or parse " ++ path ++ ": " ++ problem.message
  | .duplicateName title path => "Duplicate name found: " ++ title ++ " in " ++ path
  | .missingField field path => "Missing " ++ field ++ " in " ++ path
  | .invalidName title name path =>
    "Title " ++ Text.quoted title ++ " does not give a valid function name ("
      ++ Text.quoted name ++ ") in " ++ path
  | .typeCompile typeName path reason =>
    "Failed to compile " ++ typeName ++ " for " ++ path ++ ": " ++ reason
  | .io path error => "IO error at " ++ path ++ ": " ++ error.message
  | .walk path error =>
    "Directory walk error: IO error for operation on " ++ path ++ ": " ++ error.message
  | .scaffold reason => "Scaffold error: " ++ reason

/-- The texts of what caused a failure, where causes are known beside the failure itself. -/
def Failure.causes : Failure → List String
  | .unreadable _ problem => [problem.message]
  | .io _ error => [error.message]
  | .walk path error =>
    ["IO error for operation on " ++ path ++ ": " ++ error.message, error.message]
  | _ => []

/-- The text of a failure with its causes behind it. -/
def Failure.chain (failure : Failure) : String :=
  ": ".intercalate (failure.message :: failure.causes)

end ProgramConnector
