import BundleFinish.Value.Basic

/-! # Settings and where they come from

Settings are merged from layers. A group of settings merges with a group, key by key; anything else
is replaced as a whole by what a later layer says. Every setting knows the layer it is from. -/

namespace BundleFinish.Settings

/-- The layer that a setting is from. -/
inductive Origin where
  | defaults
  /-- A settings file, by the name it is shown with. -/
  | file (name : String)
  | environment
  | flags
  deriving DecidableEq, Repr

/-- A setting, or a group of settings by name. -/
inductive Setting where
  | leaf (origin : Origin) (value : Value)
  | group (origin : Origin) (entries : List (String × Setting))
  deriving Repr

namespace Setting

/-- The layer that a setting is from; for a group, the last one that had a part in it. -/
def origin : Setting → Origin
  | .leaf origin _ => origin
  | .group origin _ => origin

/-- What a setting looks like. -/
def shape : Setting → Shape
  | .leaf _ value => value.shape
  | .group .. => .map

/-- The entries of a group. -/
def entries : Setting → Entries Setting
  | .leaf .. => []
  | .group _ entries => entries

mutual

/-- The settings that a value of one layer stands for. -/
def ofValue (origin : Origin) : Value → Setting
  | .map entries => .group origin (ofEntries origin entries)
  | value => .leaf origin value

/-- The settings of the entries of a map. -/
def ofEntries (origin : Origin) : List (String × Value) → List (String × Setting)
  | [] => []
  | (key, value) :: rest => (key, ofValue origin value) :: ofEntries origin rest

end

mutual

/-- Put a later setting over an earlier one. -/
def mergeOver (below : Option Setting) : Setting → Setting
  | .leaf origin value => .leaf origin value
  | .group origin entries =>
    .group origin (mergeEntries ((below.map Setting.entries).getD []) entries)

/-- Put later entries over earlier ones. -/
def mergeEntries (below : Entries Setting) : List (String × Setting) → Entries Setting
  | [] => below
  | (key, setting) :: rest =>
    mergeEntries (below.insert key (mergeOver (below.get? key) setting)) rest

end

/-- Merge settings, the later ones over the earlier ones. -/
def merge (below above : Setting) : Setting := mergeOver (some below) above

/-- A value under the names that lead to it. -/
def nest (origin : Origin) : List String → Value → Setting
  | [], value => ofValue origin value
  | name :: names, value => .group origin [(name, nest origin names value)]

/-- The settings of a layer that assigns values to keys, the later ones over the earlier ones. -/
def ofAssignments (origin : Origin) (assignments : List (List String × Value)) : Setting :=
  assignments.foldl (fun settings assignment =>
    settings.merge (nest origin assignment.1 assignment.2)) (.group origin [])

end Setting

end BundleFinish.Settings
