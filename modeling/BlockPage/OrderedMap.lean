/-
**Maps that keep the order of first insertion.**

A map is a list of entries whose keys are distinct. Writing an existing key keeps its place and takes
the new value; a new key goes to the end.

* `insert`, `erase`, `get?`, `contains`: the operations on one key.
* `ofList`: a list of entries read from the left, so that a repeated key keeps its first place and takes
  its last value; `overlay`: one map over another.
* `keys_insert_of_contains`, `keys_insert_of_not_contains`: what writing does to the order of keys.
-/

namespace BlockPage

/-- Entries with distinct keys, in the order in which the keys first came. -/
structure OrderedMap (κ ν : Type) where
  entries : List (κ × ν)
  distinct : (entries.map Prod.fst).Nodup
  deriving DecidableEq

namespace OrderedMap

variable {κ ν : Type} [DecidableEq κ]

/-- The map without entries. -/
def empty : OrderedMap κ ν := ⟨[], List.nodup_nil⟩

instance : EmptyCollection (OrderedMap κ ν) := ⟨empty⟩

instance : Inhabited (OrderedMap κ ν) := ⟨empty⟩

/-- The keys in order. -/
def keys (map : OrderedMap κ ν) : List κ := map.entries.map Prod.fst

/-- The values in the order of their keys. -/
def values (map : OrderedMap κ ν) : List ν := map.entries.map Prod.snd

/-- The number of entries. -/
def size (map : OrderedMap κ ν) : Nat := map.entries.length

/-- The value of a key. -/
def get? (map : OrderedMap κ ν) (key : κ) : Option ν :=
  (map.entries.find? (·.1 = key)).map Prod.snd

/-- The key has a value. -/
def contains (map : OrderedMap κ ν) (key : κ) : Bool := map.entries.any (·.1 = key)

/-- The entries with the value of one key replaced. -/
def replaceEntry (key : κ) (value : ν) (entries : List (κ × ν)) : List (κ × ν) :=
  entries.map fun entry => if entry.1 = key then (key, value) else entry

theorem map_fst_replaceEntry (key : κ) (value : ν) (entries : List (κ × ν)) :
    (replaceEntry key value entries).map Prod.fst = entries.map Prod.fst := by
  simp only [replaceEntry, List.map_map]
  apply List.map_congr_left
  intro entry _
  by_cases same : entry.1 = key <;> simp [same]

/-- Binds a key: in its place when it is present, at the end otherwise. -/
def insert (map : OrderedMap κ ν) (key : κ) (value : ν) : OrderedMap κ ν :=
  if present : map.contains key then
    ⟨replaceEntry key value map.entries, by rw [map_fst_replaceEntry]; exact map.distinct⟩
  else
    ⟨map.entries ++ [(key, value)], by
      have absent : ∀ entry ∈ map.entries, entry.1 ≠ key := fun entry inside same =>
        present (List.any_eq_true.mpr ⟨entry, inside, by simp [same]⟩)
      simp only [List.map_append, List.map_cons, List.map_nil, List.nodup_append]
      refine ⟨map.distinct, by simp, ?_⟩
      intro first member second final
      obtain ⟨entry, inside, rfl⟩ := List.mem_map.mp member
      rw [List.mem_singleton.mp final]
      exact absent entry inside⟩

/-- Removes a key and its value. -/
def erase (map : OrderedMap κ ν) (key : κ) : OrderedMap κ ν :=
  ⟨map.entries.filter (·.1 ≠ key), map.distinct.sublist (List.filter_sublist.map _)⟩

/-- The entries inserted from the left. -/
def insertAll (map : OrderedMap κ ν) (entries : List (κ × ν)) : OrderedMap κ ν :=
  entries.foldl (fun built entry => built.insert entry.1 entry.2) map

/-- The map of a list of entries, of which later ones win and earlier ones give the place. -/
def ofList (entries : List (κ × ν)) : OrderedMap κ ν := empty.insertAll entries

/-- The first map with the entries of the second written over it. -/
def overlay (below above : OrderedMap κ ν) : OrderedMap κ ν := below.insertAll above.entries

/-! ### What writing does to keys -/

theorem contains_iff_mem_keys (map : OrderedMap κ ν) (key : κ) :
    map.contains key = true ↔ key ∈ map.keys := by
  simp [contains, keys]

theorem keys_insert_of_contains {map : OrderedMap κ ν} {key : κ} (value : ν)
    (present : map.contains key = true) : (map.insert key value).keys = map.keys := by
  simp [insert, present, keys, map_fst_replaceEntry]

theorem keys_insert_of_not_contains {map : OrderedMap κ ν} {key : κ} (value : ν)
    (absent : map.contains key = false) : (map.insert key value).keys = map.keys ++ [key] := by
  simp [insert, absent, keys]

end OrderedMap

end BlockPage
