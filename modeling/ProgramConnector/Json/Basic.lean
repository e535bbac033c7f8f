import ProgramConnector.Json.Members
import ProgramConnector.Numeric.Shortest

/-!
# JSON documents

Documents keep the order of their members and the spelling class of their numbers: a whole number
of 64 bits and a double are never the same number. A document that has just been read may repeat a
key; `Json.merged` is the document in which every key keeps its first place and its last value.
-/

namespace ProgramConnector

/-- A number of a document. -/
inductive Number where
  /-- A whole number. -/
  | whole (value : Int)
  /-- A double. -/
  | double (value : Binary64)
deriving DecidableEq

/-- Equality of numbers: whole numbers and doubles are compared among themselves only. -/
def Number.same : Number → Number → Bool
  | .whole a, .whole b => a == b
  | .double a, .double b => a.same b
  | _, _ => false

/-- A document. -/
inductive Json where
  /-- The null value. -/
  | null
  /-- A truth value. -/
  | bool (value : Bool)
  /-- A number. -/
  | num (value : Number)
  /-- A text. -/
  | str (value : String)
  /-- An array. -/
  | arr (elements : List Json)
  /-- An object, its members in document order. -/
  | obj (members : List (String × Json))

namespace Json

/-- The members of an object; other values have none. -/
def members : Json → List (String × Json)
  | .obj members => members
  | _ => []

/-- The value of a member. -/
def get? (key : String) (value : Json) : Option Json := Members.find? key value.members

/-- The text of a text value. -/
def text? : Json → Option String
  | .str value => some value
  | _ => none

/-- The elements of an array. -/
def elements? : Json → Option (List Json)
  | .arr elements => some elements
  | _ => none

/-- The truth value of a truth value. -/
def bool? : Json → Option Bool
  | .bool value => some value
  | _ => none

mutual

/-- The document without repeated keys: each keeps its first place and its last value. -/
def merged : Json → Json
  | .arr elements => .arr (mergedElements elements)
  | .obj members => .obj (mergedMembers members)
  | .null => .null
  | .bool value => .bool value
  | .num value => .num value
  | .str value => .str value

/-- The elements of an array, each without repeated keys. -/
def mergedElements : List Json → List Json
  | [] => []
  | value :: rest => merged value :: mergedElements rest

/-- The members of an object without repeated keys, at any depth. -/
def mergedMembers : List (String × Json) → List (String × Json)
  | [] => []
  | (key, value) :: rest => Members.insertFirst key (merged value) (mergedMembers rest)

end

mutual

/-- Equality of documents without repeated keys: the order of members does not matter. -/
def same : Json → Json → Bool
  | .null, .null => true
  | .bool a, .bool b => a == b
  | .num a, .num b => a.same b
  | .str a, .str b => a == b
  | .arr as, .arr bs => sameElements as bs
  | .obj as, .obj bs => as.length == bs.length && sameMembers as bs
  | _, _ => false

/-- Elements are compared place by place. -/
def sameElements : List Json → List Json → Bool
  | [], [] => true
  | a :: as, b :: bs => same a b && sameElements as bs
  | _, _ => false

/-- Every member is found, with the same value, among the others. -/
def sameMembers : List (String × Json) → List (String × Json) → Bool
  | [], _ => true
  | (key, a) :: rest, bs =>
    (match Members.find? key bs with
      | some b => same a b
      | none => false) && sameMembers rest bs

end

mutual

/-- The number of values in a document, itself included. -/
def size : Json → Nat
  | .arr elements => 1 + sizeElements elements
  | .obj members => 1 + sizeMembers members
  | .null => 1
  | .bool _ => 1
  | .num _ => 1
  | .str _ => 1

/-- The number of values in a list of documents. -/
def sizeElements : List Json → Nat
  | [] => 0
  | value :: rest => size value + sizeElements rest

/-- The number of values in the members of an object. -/
def sizeMembers : List (String × Json) → Nat
  | [] => 0
  | (_, value) :: rest => size value + sizeMembers rest

end

mutual

/-- The values under a key, at any depth, in document order. -/
def valuesUnder (key : String) : Json → List Json
  | .arr elements => elementsUnder key elements
  | .obj members => membersUnder key members
  | .null => []
  | .bool _ => []
  | .num _ => []
  | .str _ => []

/-- The values under a key in a list of documents. -/
def elementsUnder (key : String) : List Json → List Json
  | [] => []
  | value :: rest => valuesUnder key value ++ elementsUnder key rest

/-- The values under a key in the members of an object. -/
def membersUnder (key : String) : List (String × Json) → List Json
  | [] => []
  | (name, value) :: rest =>
    (if name == key then [value] else []) ++ valuesUnder key value ++ membersUnder key rest

end

end Json

end ProgramConnector
