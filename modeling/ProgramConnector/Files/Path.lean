import ProgramConnector.Text.Lines

/-!
# Paths

A path is kept as the text that it was written with. Joining and taking the parent work on that text
and normalise nothing; two paths are the same when their components are.
-/

namespace ProgramConnector.Path

/-- A component of a path. -/
inductive Component where
  /-- The root directory. -/
  | root
  /-- The directory itself, which counts only at the start of a path. -/
  | here
  /-- The directory above. -/
  | up
  /-- A name in a directory. -/
  | name (text : List Char)
deriving DecidableEq

/-- Whether a path starts at the root. -/
def isAbsolute (path : String) : Bool := path.toList.head? == some '/'

/-- The pieces of a path between slashes. -/
def pieces (path : String) : List (List Char) := Text.splitAt '/' path.toList

/-- Whether a piece leads nowhere. -/
def isVoid (piece : List Char) : Bool := piece.isEmpty || piece == ['.']

/-- The component of a piece that leads somewhere. -/
def componentOf (piece : List Char) : Component := if piece == ['.', '.'] then .up else .name piece

/-- The components of a path. -/
def components (path : String) : List Component :=
  let body := ((pieces path).filter fun piece => !isVoid piece).map componentOf
  if isAbsolute path then .root :: body
  else if (pieces path).head? == some ['.'] then .here :: body
  else body

/-- Whether two paths have the same components. -/
def same (a b : String) : Bool := components a == components b

/-- A path taken from `base`. An absolute path stays as it is. -/
def join (base path : String) : String :=
  if isAbsolute path then path
  else if base.isEmpty || base.toList.getLast? == some '/' then base ++ path
  else base ++ "/" ++ path

/-- The start of a path that is no piece of its own, and the pieces after it. -/
def headAndBody (path : List Char) : List Char × List (List Char) :=
  match path with
  | '/' :: rest => (['/'], Text.splitAt '/' rest)
  | ['.'] => (['.'], [])
  | '.' :: '/' :: rest => (['.'], Text.splitAt '/' ('/' :: rest))
  | _ => ([], Text.splitAt '/' path)

/-- The path without its last component, and without slashes and dots at its end. -/
def parent? (path : String) : Option String :=
  let (head, body) := headAndBody path.toList
  match body.reverse.dropWhile isVoid with
  | [] => if head == ['.'] then some "" else none
  | _ :: rest =>
    some (String.ofList (head ++ List.intercalate ['/'] (rest.dropWhile isVoid).reverse))

/-- The last component, if it is a name. -/
def fileName? (path : String) : Option (List Char) :=
  match (components path).getLast? with
  | some (.name text) => some text
  | _ => none

/-- The part of a name after its last dot, unless there is no dot or nothing before it. -/
def extensionOfName? (name : List Char) : Option (List Char) :=
  match (Text.splitAt '.' name).reverse with
  | after :: before :: more =>
    if before.isEmpty && more.isEmpty then none else some after
  | _ => none

/-- The extension of a path. -/
def extension? (path : String) : Option (List Char) := (fileName? path).bind extensionOfName?

end ProgramConnector.Path
