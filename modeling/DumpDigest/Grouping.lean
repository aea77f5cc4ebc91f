import DumpDigest.Profile.Basic

/-! # Groups and projections

Items are grouped by a key: the groups come in ascending order of their keys, and within a group the
items keep their order. Where a key can fail, the first item whose key fails decides.
-/

universe u v w

namespace DumpDigest

/-- Groups by key. -/
abbrev Groups (κ : Type v) (α : Type u) [Ord κ] := SortedMap κ (List α)

/-- The groups with an item more at the end of one of them. -/
def Groups.push {α : Type u} {κ : Type v} [Ord κ] [Std.TransOrd κ] (groups : Groups κ α) (key : κ)
    (item : α) : Groups κ α :=
  groups.alter key fun group => group.getD [] ++ [item]

/-- Items by key, keys ascending, each group in the order of the items. -/
def partition {α : Type u} {κ : Type v} [Ord κ] [Std.TransOrd κ] (key : α → κ) (items : List α) :
    List (κ × List α) :=
  let groups : Groups κ α := items.foldl (fun groups item => groups.push (key item) item) .empty
  groups.toList

/-- The groups with an item more, whose key can fail. -/
def Groups.tryPush {α κ ε : Type} [Ord κ] [Std.TransOrd κ] (key : α → Except ε κ)
    (groups : Groups κ α) (item : α) : Except ε (Groups κ α) :=
  (groups.push · item) <$> key item

/-- Items by a key that can fail. -/
def tryPartition {α κ : Type} {ε : Type} [Ord κ] [Std.TransOrd κ] (key : α → Except ε κ)
    (items : List α) : Except ε (List (κ × List α)) := do
  let groups ← items.foldlM (Groups.tryPush key) .empty
  return groups.toList

/-- The items that satisfy a predicate and the others, both in order. -/
def bisect {α : Type u} (holds : α → Bool) (items : List α) : List α × List α :=
  (items.filter holds, items.filter fun item => !holds item)

/-- Runs by their whole configuration. -/
def byConfiguration (profiles : List Profile) : List (OptionFilter × List Profile) :=
  partition Profile.configuration profiles

/-- A field of several runs. -/
def column (field : String) (profiles : List Profile) : Except FieldError (List Value) :=
  profiles.mapM fun profile => profile.record.require field

/-- Several fields of a run. -/
def row (fields : List String) (profile : Profile) : Except FieldError (List Value) :=
  fields.mapM fun field => profile.record.require field

/-- Several fields of several runs, run by run. -/
def rows (fields : List String) (profiles : List Profile) :
    Except FieldError (List (List Value)) :=
  profiles.mapM (row fields)

end DumpDigest
