import ProgramConnector.Json.Printer
import ProgramConnector.Numeric.Extended
import ProgramConnector.Text.CaseMap

/-!
# Setting values

What a source of settings says: a tree of tables with scalars and lists at its leaves. A stronger
source is put over a weaker one table by table, so that a key of a nested table leaves the other
keys of that table alone. Keys are compared in lowercase.
-/

namespace ProgramConnector

/-- A value of a source of settings. -/
inductive SettingValue where
  /-- No value. -/
  | null
  /-- A truth value. -/
  | flag (value : Bool)
  /-- A whole number. -/
  | whole (value : Int)
  /-- A double. -/
  | real (value : Extended)
  /-- A text. -/
  | text (value : String)
  /-- A list. -/
  | list (elements : List SettingValue)
  /-- A table. -/
  | table (entries : List (String × SettingValue))

namespace SettingValue

/-- The entries of a table; other values have none. -/
def entries : SettingValue → List (String × SettingValue)
  | .table entries => entries
  | _ => []

/-- A scalar as text. -/
def text? : SettingValue → Option String
  | .text value => some value
  | .flag true => some "true"
  | .flag false => some "false"
  | .whole value => some (String.ofList (Json.printNumber (.whole value)))
  | .real value => some (String.ofList value.plainText)
  | _ => none

/-- The words for a truth value in a setting. -/
def flagWord? (word : String) : Option Bool :=
  if ["1", "true", "on", "yes"].contains word then some true
  else if ["0", "false", "off", "no"].contains word then some false
  else none

/-- A scalar as a truth value: a number is true unless it is zero, and words may be in upper or
lower case. -/
def flag? : SettingValue → Option Bool
  | .flag value => some value
  | .whole value => some (value != 0)
  | .real value => some (!value.isZero)
  | .text value => flagWord? (String.ofList (Text.lower value.toList))
  | _ => none

/-- A key as it is compared. -/
def keyOf (name : String) : String := String.ofList (Text.lower name.toList)

mutual

/-- A value put over a weaker one. -/
def lay (weaker : Option SettingValue) : SettingValue → SettingValue
  | .table [] => weaker.getD (.table [])
  | .table (entry :: rest) =>
    .table (layEntries ((weaker.map entries).getD []) (entry :: rest))
  | .null => .null
  | .flag value => .flag value
  | .whole value => .whole value
  | .real value => .real value
  | .text value => .text value
  | .list elements => .list elements

/-- Entries put over the entries of a weaker table. -/
def layEntries (weaker : List (String × SettingValue)) :
    List (String × SettingValue) → List (String × SettingValue)
  | [] => weaker
  | (name, value) :: rest =>
    let key := keyOf name
    layEntries (Members.put key (lay (Members.find? key weaker) value) weaker) rest

end

mutual

/-- The value of a document. Whole numbers that 64 bits with a sign do not hold become doubles. -/
def ofJson : Json → SettingValue
  | .null => .null
  | .bool value => .flag value
  | .num (.whole value) =>
    if isSignedWhole value then .whole value
    else .real (Extended.ofDecimal (value < 0) value.natAbs 20 0)
  | .num (.double value) => .real (.finite value)
  | .str value => .text value
  | .arr elements => .list (elementsOfJson elements)
  | .obj members => .table (entriesOfJson members)

/-- The elements of a list. -/
def elementsOfJson : List Json → List SettingValue
  | [] => []
  | value :: rest => ofJson value :: elementsOfJson rest

/-- The entries of a table. -/
def entriesOfJson : List (String × Json) → List (String × SettingValue)
  | [] => []
  | (name, value) :: rest => (name, ofJson value) :: entriesOfJson rest

end

end SettingValue

/-- A setting of a record: taking it from a value gives the change that it makes to the record. -/
structure SettingField (α : Type) where
  /-- The key. -/
  name : String
  /-- The change that a value makes, if it has the right form. -/
  change : SettingValue → Option (α → α)

namespace SettingField

variable {α β : Type}

/-- A setting taken by `take?` and put into the record by `set`. -/
def of (name : String) (take? : SettingValue → Option β) (set : β → α → α) : SettingField α :=
  ⟨name, fun value => (take? value).map set⟩

/-- A setting that may be null. -/
def optional (take? : SettingValue → Option β) : SettingValue → Option (Option β)
  | .null => some none
  | value => (take? value).map some

/-- The record of a table. Unknown keys are passed over. -/
def ofEntries (fields : List (SettingField α)) :
    List (String × SettingValue) → α → Option α
  | [], record => some record
  | (name, value) :: rest, record =>
    match fields.find? (·.name == name) with
    | none => ofEntries fields rest record
    | some field => do ofEntries fields rest ((← field.change value) record)

/-- The record of a list of its fields in order. Surplus elements are passed over. -/
def ofElements : List (SettingField α) → List SettingValue → α → Option α
  | [], _, record => some record
  | _, [], record => some record
  | field :: fields, value :: rest, record => do
    ofElements fields rest ((← field.change value) record)

/-- The record of a table or a list, starting from its defaults. -/
def record (defaults : α) (fields : List (SettingField α)) : SettingValue → Option α
  | .table entries => ofEntries fields entries defaults
  | .list elements => ofElements fields elements defaults
  | _ => none

end SettingField

end ProgramConnector
