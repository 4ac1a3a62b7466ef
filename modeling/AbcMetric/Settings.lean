import AbcMetric.Exclusion
import AbcMetric.Toml.Document

/-!
# Project settings

A project may hold a settings file with a section of defaults for the command line and a section of
exclusions. Unknown keys are ignored; a value of a wrong type spoils the whole file.

A section is normally a table. An array is taken as the values of the section's keys in their order,
and a date as a section without keys.

These are the program's settings and how they are read from the items of a file. Not modelled: the
text of a fault in the file, which only the log shows.
-/

namespace AbcMetric

/-- Defaults for the command line. -/
structure RunDefaults where
  sort : Option Bool := none
  verbose : Option Bool := none
  workers : Option Nat := none
  format : Option String := none
  deriving DecidableEq, Repr

/-- The settings of a project. -/
structure Settings where
  exclude : Exclusion := {}
  defaults : RunDefaults := {}
  deriving DecidableEq, Repr

namespace TomlItem

/-- A boolean. -/
def toBool? : TomlItem → Option Bool
  | .boolean b => some b
  | _ => none

/-- A natural number. -/
def toNat? : TomlItem → Option Nat
  | .integer (.ofNat n) => some n
  | _ => none

/-- A text. -/
def toText? : TomlItem → Option String
  | .string s => some s
  | _ => none

/-- A list of texts. -/
def toTexts? : TomlItem → Option (List String)
  | .array items => items.mapM toText?
  | _ => none

/-- The items that a section gives to keys. -/
def section? (keys : List String) : TomlItem → Option (List (Option TomlItem))
  | .table _ entries => some (keys.map fun key => entries.lookup key)
  | .array items => some (keys.zipIdx.map fun (_, i) => items[i]?)
  | .tables items => some (keys.zipIdx.map fun (_, i) => items.reverse[i]?.map (.table .header))
  | .date => some (keys.map fun _ => none)
  | _ => none

end TomlItem

/-- Reads an item that may be missing; only a wrong type is a failure. -/
def optional (read : TomlItem → Option α) : Option TomlItem → Option (Option α)
  | none => some none
  | some item => (read item).map some

/-- Reads an item that has a default. -/
def withDefault (default : α) (read : TomlItem → Option α) (item : Option TomlItem) : Option α :=
  (optional read item).map (·.getD default)

/-- The section of exclusions. -/
def Exclusion.ofItem? (item : TomlItem) : Option Exclusion := do
  match ← item.section? ["paths", "skip_defaults", "include_hidden", "include_ignored"] with
  | [paths, skipDefaults, includeHidden, includeIgnored] =>
    return {
      paths := ← withDefault [] TomlItem.toTexts? paths
      skipDefaults := ← withDefault false TomlItem.toBool? skipDefaults
      includeHidden := ← withDefault false TomlItem.toBool? includeHidden
      includeIgnored := ← withDefault false TomlItem.toBool? includeIgnored }
  | _ => none

/-- The section of defaults. -/
def RunDefaults.ofItem? (item : TomlItem) : Option RunDefaults := do
  match ← item.section? ["sort", "verbose", "workers", "format"] with
  | [sort, verbose, workers, format] =>
    return {
      sort := ← optional TomlItem.toBool? sort
      verbose := ← optional TomlItem.toBool? verbose
      workers := ← optional TomlItem.toNat? workers
      format := ← optional TomlItem.toText? format }
  | _ => none

/-- The settings that a text holds. -/
def Settings.ofText? (text : String) : Option Settings := do
  let root ← Toml.document? text
  return {
    exclude := ← withDefault {} Exclusion.ofItem? (root.lookup "exclude")
    defaults := ← withDefault {} RunDefaults.ofItem? (root.lookup "defaults") }

/-- The name of a project's settings file. -/
def settingsFileName : String := "python-abc.toml"

end AbcMetric
