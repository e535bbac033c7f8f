import ProgramConnector.Json.Members
import ProgramConnector.Files.Path

/-!
# Trees of files

What stands at a place of a file system, with all that is below it. A location is the list of names
that leads from the top of a tree to a place in it. The entries of a directory have no order that
matters: a walk visits them sorted by name.
-/

namespace ProgramConnector

/-- What stands at a place of a file system. -/
inductive Node where
  /-- A regular file with its content and its permission bits. -/
  | file (content : ByteArray) (mode : Nat)
  /-- A directory with its entries. -/
  | directory (entries : List (String × Node))
  /-- A symbolic link with its target. -/
  | link (target : String)

namespace Node

/-- The entries of a directory; other nodes have none. -/
def entries : Node → List (String × Node)
  | .directory entries => entries
  | _ => []

/-- The node at a location, links not being followed. -/
def at? : List String → Node → Option Node
  | [], node => some node
  | name :: rest, .directory entries => (Members.find? name entries).bind (at? rest)
  | _ :: _, _ => none

/-- The tree with `new` at a location. -/
def put (new : Node) : List String → Node → Node
  | [], _ => new
  | name :: rest, .directory entries =>
    let child := (Members.find? name entries).getD (.directory [])
    .directory (Members.put name (put new rest child) entries)
  | _ :: _, node => node

/-- The tree without what is at a location. -/
def erase : List String → Node → Node
  | [], node => node
  | [name], .directory entries => .directory (Members.without name entries)
  | name :: rest, .directory entries =>
    match Members.find? name entries with
    | some child => .directory (Members.put name (erase rest child) entries)
    | none => .directory entries
  | _ :: _, node => node

/-- A longer location goes on from where the shorter one leads. -/
theorem at?_append (node : Node) (before behind : List String) :
    node.at? (before ++ behind) = (node.at? before).bind (at? behind) := by
  induction before generalizing node with
  | nil => rfl
  | cons name rest ih =>
    cases node with
    | directory entries =>
      simp only [List.cons_append, at?, Option.bind_assoc]
      congr 1
      funext child
      exact ih child
    | file content mode => rfl
    | link target => rfl

/-- What is put under a name of a directory stands there. -/
theorem at?_put_self (new node : Node) (location : List String) (name : String)
    {entries : List (String × Node)} (h : node.at? location = some (.directory entries)) :
    (put new (location ++ [name]) node).at? (location ++ [name]) = some new := by
  induction location generalizing node with
  | nil =>
    cases h
    simp [put, at?]
  | cons first rest ih =>
    cases node with
    | directory inner =>
      obtain ⟨child, hc, hr⟩ := Option.bind_eq_some_iff.1 h
      simp [put, at?, hc, ih child hr]
    | file content mode => simp [at?] at h
    | link target => simp [at?] at h

/-- Whether a node is a directory. -/
def isDirectory : Node → Bool
  | .directory _ => true
  | _ => false

/-- Whether a node is a regular file. -/
def isFile : Node → Bool
  | .file _ _ => true
  | _ => false

end Node

/-- Named things sorted by name. -/
def sortedByName {α : Type} (named : List (String × α)) : List (String × α) :=
  named.mergeSort fun a b => a.1 ≤ b.1

namespace Node

mutual

/-- The node at `path` and all nodes below it, every directory before its entries. Links are not
followed. -/
def walk (path : String) : Node → List (String × Node)
  | .directory entries =>
    (path, .directory entries) :: (sortedByName (walkEntries path entries)).flatMap Prod.snd
  | .file content mode => [(path, .file content mode)]
  | .link target => [(path, .link target)]

/-- The walk of each entry of a directory at `path`, by name. -/
def walkEntries (path : String) : List (String × Node) → List (String × List (String × Node))
  | [] => []
  | (name, node) :: rest => (name, walk (Path.join path name) node) :: walkEntries path rest

end

end Node

end ProgramConnector
