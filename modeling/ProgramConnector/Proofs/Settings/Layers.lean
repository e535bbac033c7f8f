import ProgramConnector.Json.Members
import ProgramConnector.Settings.Value
import Mathlib.Data.List.Nodup

/-!
# Layers of settings

Entries put over one another say at every key what the last entry with this key says, unless the key
is that of tables: then its table is made of the entries of all these tables, put over one another.
So what is said at a path of keys is said by the last of the values at this path, whichever entries
it stands in.
-/

namespace ProgramConnector

namespace SettingValue

/-- Whether a value is a table. -/
def isTable : SettingValue → Bool
  | .table _ => true
  | _ => false

/-- The values of the entries with a key, in order. -/
def valuesOf (key : String) (entries : List (String × SettingValue)) : List SettingValue :=
  (entries.filter fun entry => keyOf entry.1 == key).map Prod.snd

/-- The entries of all tables under a key, in order. -/
def entriesBelow (key : String) (entries : List (String × SettingValue)) :
    List (String × SettingValue) :=
  (valuesOf key entries).flatMap SettingValue.entries

/-- The values at a path of keys, in order. -/
def valuesAt : List String → List (String × SettingValue) → List SettingValue
  | [], _ => []
  | [key], entries => valuesOf key entries
  | key :: next :: rest, entries => valuesAt (next :: rest) (entriesBelow key entries)

section Values

variable {key : String} {entries behind weaker : List (String × SettingValue)}

/-- The values of more entries come behind those of the first ones. -/
theorem valuesOf_append (key : String) (entries behind : List (String × SettingValue)) :
    valuesOf key (entries ++ behind) = valuesOf key entries ++ valuesOf key behind := by
  rw [valuesOf, List.filter_append, List.map_append]
  rfl

/-- The values at a path in more entries come behind those in the first ones. -/
theorem valuesAt_append (path : List String) (entries behind : List (String × SettingValue)) :
    valuesAt path (entries ++ behind) = valuesAt path entries ++ valuesAt path behind := by
  induction path generalizing entries behind with
  | nil => rfl
  | cons key rest ih =>
    cases rest with
    | nil => exact valuesOf_append key entries behind
    | cons next rest =>
      rw [valuesAt, entriesBelow, valuesOf_append, List.flatMap_append]
      exact ih _ _

/-- The values at a path in several sources are those in each of them, in order. -/
theorem valuesAt_flatten (path : List String) (sources : List (List (String × SettingValue))) :
    valuesAt path sources.flatten = sources.flatMap (valuesAt path) := by
  have hnil : valuesAt path [] = [] := by
    have happend := valuesAt_append path [] []
    simpa using congrArg List.length happend
  induction sources with
  | nil => exact hnil
  | cons first rest ih => rw [List.flatten_cons, valuesAt_append, ih, List.flatMap_cons]

end Values

section Layers

variable {key : String} {entries behind weaker : List (String × SettingValue)}

end Layers

end SettingValue

end ProgramConnector
