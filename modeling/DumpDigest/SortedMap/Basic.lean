/-! # Maps whose keys ascend by construction

A map is a chain of entries in which every key is greater than the one before it. The chain carries
its lower bound in its type, so that a map out of order cannot be written down: two maps are equal
exactly when they hold the same entries, and a type may nest maps of itself.
-/

universe u v w

namespace DumpDigest

/-- What a key must satisfy to come next: nothing at the start, to be greater after a key. -/
def Follows {κ : Type u} [Ord κ] : Option κ → κ → Prop
  | none, _ => True
  | some bound, key => compare bound key = .lt

/-- A chain of entries with strictly ascending keys, all of which follow `bound`. -/
inductive Ascending (κ : Type u) (ν : Type v) [Ord κ] : Option κ → Type (max u v)
  | nil {bound : Option κ} : Ascending κ ν bound
  | cons {bound : Option κ} (key : κ) (value : ν) (follows : Follows bound key)
      (rest : Ascending κ ν (some key)) : Ascending κ ν bound

/-- A finite map with ascending keys: a chain without a lower bound. -/
abbrev SortedMap (κ : Type u) (ν : Type v) [Ord κ] := Ascending κ ν none

namespace Ascending

variable {κ : Type u} {ν : Type v} {μ : Type w} [Ord κ] {bound : Option κ}

instance : Inhabited (Ascending κ ν bound) := ⟨nil⟩

instance : EmptyCollection (Ascending κ ν bound) := ⟨nil⟩

/-- The entries, keys ascending. -/
def toList {bound : Option κ} : Ascending κ ν bound → List (κ × ν)
  | nil => []
  | cons key value _ rest => (key, value) :: toList rest

/-- The keys, ascending. -/
def keys (map : Ascending κ ν bound) : List κ :=
  map.toList.map (·.1)

/-- The values in the order of their keys. -/
def values (map : Ascending κ ν bound) : List ν :=
  map.toList.map (·.2)

/-- The number of entries. -/
def size (map : Ascending κ ν bound) : Nat :=
  map.toList.length

/-- Whether there is no entry. -/
def isEmpty : Ascending κ ν bound → Bool
  | nil => true
  | cons .. => false

/-- The value stored at a key. -/
def find? (wanted : κ) {bound : Option κ} : Ascending κ ν bound → Option ν
  | nil => none
  | cons key value _ rest => if compare wanted key = .eq then some value else find? wanted rest

/-- A chain that starts above a key starts above everything that the key follows. -/
def weaken [Std.TransOrd κ] {bound : Option κ} {key : κ} (follows : Follows bound key) :
    Ascending κ ν (some key) → Ascending κ ν bound
  | nil => nil
  | cons next value above rest =>
    cons next value
      (match bound, follows with
        | none, _ => trivial
        | some _, below => Std.TransCmp.lt_trans below above)
      rest

/-- The chain with `change` applied to what is stored at a key, which must follow the bound. -/
def alter [Std.TransOrd κ] (wanted : κ) (change : Option ν → ν) {bound : Option κ}
    (follows : Follows bound wanted) : Ascending κ ν bound → Ascending κ ν bound
  | nil => cons wanted (change none) follows nil
  | cons key value above rest =>
    match order : compare wanted key with
    | .lt => cons wanted (change none) follows (cons key value order rest)
    | .eq => cons key (change (some value)) above rest
    | .gt => cons key value above (alter wanted change (Std.OrientedCmp.lt_of_gt order) rest)

/-- The chain without the entry of a key. -/
def erase [Std.TransOrd κ] (wanted : κ) {bound : Option κ} :
    Ascending κ ν bound → Ascending κ ν bound
  | nil => nil
  | cons key value above rest =>
    if compare wanted key = .eq then rest.weaken above
    else cons key value above (erase wanted rest)

end Ascending

namespace SortedMap

variable {κ : Type u} {ν : Type v} [Ord κ]

/-- The map without entries. -/
def empty : SortedMap κ ν := .nil

variable [Std.TransOrd κ]

/-- The map with `change` applied to what is stored at a key. -/
def alter (map : SortedMap κ ν) (key : κ) (change : Option ν → ν) : SortedMap κ ν :=
  Ascending.alter key change trivial map

/-- The map with a value stored at a key, whatever was there before. -/
def insert (map : SortedMap κ ν) (key : κ) (value : ν) : SortedMap κ ν :=
  map.alter key fun _ => value

/-- The map with entries stored one after the other, so that of two values for a key the later
stays. -/
def extend (map : SortedMap κ ν) (entries : List (κ × ν)) : SortedMap κ ν :=
  entries.foldl (fun grown entry => grown.insert entry.1 entry.2) map

/-- The map of a list of entries; of two values for a key the later stays. -/
def ofList (entries : List (κ × ν)) : SortedMap κ ν :=
  empty.extend entries

end SortedMap

end DumpDigest
