import ProgramConnector.Settings.Value

/-!
# Tables under construction

While a document is read its tables remember how they came about, because no key may be given twice
and no table may be defined twice. A table that is only mentioned on the way to another one may
still be defined by a header; one that dotted keys have made grows by dotted keys only.
-/

namespace ProgramConnector.Toml

/-- How a table came about. -/
inductive Origin where
  /-- It was mentioned on the way to another table. -/
  | mentioned
  /-- A header defined it. -/
  | headed
  /-- Dotted keys made it. -/
  | dotted
deriving DecidableEq

/-- What stands under a key. -/
inductive Item where
  /-- A value. -/
  | value (value : SettingValue)
  /-- A table. -/
  | table (origin : Origin) (entries : List (String × Item))
  /-- A list of tables. -/
  | tables (elements : List (List (String × Item)))

/-- The entries of a table. -/
abbrev Entries := List (String × Item)

namespace Entries

/-- A new entry at the end; the key must not be there. -/
def add? (key : String) (item : Item) (entries : Entries) : Option Entries :=
  if (Members.find? key entries).isSome then none else some (entries ++ [(key, item)])

/-- A list of tables with its last element changed. -/
def changeLast? (change : Entries → Option Entries) (elements : List Entries) :
    Option (List Entries) :=
  match elements.reverse with
  | [] => none
  | last :: earlier => (change last).map fun changed => (changed :: earlier).reverse

/-- A value under a dotted key. Tables on the way are made where they are missing; the innermost one
has to be made by dotted keys. -/
def addDotted? (key : String) (value : SettingValue) : List String → Entries → Option Entries
  | [], entries => add? key (.value value) entries
  | step :: rest, entries =>
    match Members.find? step entries with
    | none => do
      let inner ← addDotted? key value rest []
      return entries ++ [(step, .table .dotted inner)]
    | some (.table origin inner) =>
      if origin == .headed || (rest.isEmpty && origin != .dotted) then none
      else do
        let inner ← addDotted? key value rest inner
        return Members.put step (.table origin inner) entries
    | some (.tables elements) =>
      if rest.isEmpty then none
      else do
        let elements ← changeLast? (addDotted? key value rest) elements
        return Members.put step (.tables elements) entries
    | some (.value _) => none

/-- A change of the entries that a header leads to. Tables on the way are mentioned, and of a list
of tables the last one counts. -/
def changeAt? (change : Entries → Option Entries) : List String → Entries → Option Entries
  | [], entries => change entries
  | step :: rest, entries =>
    match Members.find? step entries with
    | none => do
      let inner ← changeAt? change rest []
      return entries ++ [(step, .table .mentioned inner)]
    | some (.table origin inner) => do
      let inner ← changeAt? change rest inner
      return Members.put step (.table origin inner) entries
    | some (.tables elements) => do
      let elements ← changeLast? (changeAt? change rest) elements
      return Members.put step (.tables elements) entries
    | some (.value _) => none

/-- The table that a header defines. -/
def define? (key : String) (entries : Entries) : Option Entries :=
  match Members.find? key entries with
  | none => add? key (.table .headed []) entries
  | some (.table .mentioned inner) => some (Members.put key (.table .headed inner) entries)
  | some _ => none

/-- One more table in a list of tables. -/
def append? (key : String) (entries : Entries) : Option Entries :=
  match Members.find? key entries with
  | none => add? key (.tables [[]]) entries
  | some (.tables elements) => some (Members.put key (.tables (elements ++ [[]])) entries)
  | some _ => none

end Entries

mutual

/-- What stands under a key as a setting value. -/
def Item.toSetting : Item → SettingValue
  | .value value => value
  | .table _ entries => .table (settingsOfEntries entries)
  | .tables elements => .list (settingsOfTables elements)

/-- The entries of a table as setting values. -/
def settingsOfEntries : List (String × Item) → List (String × SettingValue)
  | [] => []
  | (key, item) :: rest => (key, item.toSetting) :: settingsOfEntries rest

/-- A list of tables as setting values. -/
def settingsOfTables : List (List (String × Item)) → List SettingValue
  | [] => []
  | entries :: rest => .table (settingsOfEntries entries) :: settingsOfTables rest

end

end ProgramConnector.Toml
