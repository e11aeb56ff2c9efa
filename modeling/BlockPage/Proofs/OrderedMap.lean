/-
**What is bound in a map.**

A map is determined by the order of its keys and by the value of each key. Entries that are written one
after the other leave every key in the place of its first entry, with the value of its last one.

* `OrderedMap.ext_get?`: maps with the same keys and values are the same.
* `OrderedMap.get?_insert`, `OrderedMap.get?_erase`: what writing and removing do to values.
* `OrderedMap.IsWritten`, `OrderedMap.isWritten_iff`: one key is written.
* `OrderedMap.Binds`: a map is what a list of entries leaves; `OrderedMap.binds_ofList`,
  `OrderedMap.Binds.eq_ofList`: there is just one such map.
* `OrderedMap.ofList_entries`: the entries of a map leave the map.
* `OrderedMap.IsOverlay`: a map is one map written over another; `OrderedMap.isOverlay_insertAll`: entries are
  written over a map as the map that they leave is.
* `OrderedMap.mapValues`: a function applied to all values; `OrderedMap.insertAll_mapValues_iff`: what
  leaves values of a function.
-/

import BlockPage.OrderedMap
import Mathlib.Data.List.Induction
import Mathlib.Data.List.Nodup
import Mathlib.Data.List.Perm.Subperm
import Mathlib.Tactic.SplitIfs

namespace BlockPage.OrderedMap

variable {κ ν : Type} [DecidableEq κ]

omit [DecidableEq κ] in
/-- A map is its entries: that no key repeats is a proof. -/
theorem ext_entries {left right : OrderedMap κ ν} (same : left.entries = right.entries) : left = right := by
  cases left
  cases right
  cases same
  rfl

/-! ### Values -/

/-- Replacing the value of a key is seen under that key only. -/
theorem find?_replaceEntry (key other : κ) (value : ν) (entries : List (κ × ν)) :
    ((replaceEntry key value entries).find? (·.1 = other)).map Prod.snd =
      if key = other then (entries.find? (·.1 = other)).map fun _ => value
      else (entries.find? (·.1 = other)).map Prod.snd := by
  induction entries with
  | nil => simp [replaceEntry]
  | cons entry entries ih =>
    rw [replaceEntry, List.map_cons, ← replaceEntry, List.find?_cons, List.find?_cons]
    by_cases same : key = other
    · subst same
      by_cases here : entry.1 = key
      · simp [here]
      · simpa [here] using ih
    · by_cases here : entry.1 = key
      · simpa [here, same] using ih
      · by_cases there : entry.1 = other
        · simp [there, same, Ne.symm same]
        · simpa [here, there, same] using ih

/-- Writing a key changes its value only. -/
theorem get?_insert (map : OrderedMap κ ν) (key other : κ) (value : ν) :
    (map.insert key value).get? other = if key = other then some value else map.get? other := by
  by_cases present : map.contains key = true
  · rw [insert, dif_pos present, get?, find?_replaceEntry]
    by_cases same : key = other
    · subst same
      obtain ⟨entry, inside, here⟩ := List.any_eq_true.mp present
      have found : ((map.entries.find? (·.1 = key)).isSome) = true :=
        List.find?_isSome.mpr ⟨entry, inside, here⟩
      rw [if_pos rfl, if_pos rfl]
      obtain ⟨first, found⟩ := Option.isSome_iff_exists.mp found
      rw [found, Option.map_some]
    · rw [if_neg same, if_neg same, get?]
  · rw [insert, dif_neg present, get?, List.find?_append, get?]
    by_cases same : key = other
    · subst same
      have absent : map.entries.find? (·.1 = key) = none := by
        rw [List.find?_eq_none]
        intro entry inside here
        exact present (List.any_eq_true.mpr ⟨entry, inside, here⟩)
      simp [absent]
    · simp [same]

/-- An entry is what is found under its key, since no other has that key. -/
theorem get?_of_mem {map : OrderedMap κ ν} {entry : κ × ν} (inside : entry ∈ map.entries) :
    map.get? entry.1 = some entry.2 := by
  obtain ⟨entries, distinct⟩ := map
  show (entries.find? (·.1 = entry.1)).map Prod.snd = some entry.2
  dsimp only at inside
  induction entries with
  | nil => cases inside
  | cons first rest ih =>
    obtain ⟨fresh, distinct⟩ := List.nodup_cons.mp distinct
    rcases List.mem_cons.mp inside with rfl | inside
    · simp
    · have other : first.1 ≠ entry.1 := fun same =>
        fresh (same ▸ List.mem_map_of_mem inside)
      rw [List.find?_cons_of_neg (by simpa using other)]
      exact ih distinct inside

/-- Nothing is found under just the keys that are not there. -/
theorem get?_eq_none_iff {map : OrderedMap κ ν} {key : κ} : map.get? key = none ↔ key ∉ map.keys := by
  rw [get?, Option.map_eq_none_iff, List.find?_eq_none, keys, List.mem_map, not_exists]
  refine forall_congr' fun entry => ?_
  rw [not_and, decide_eq_true_iff]

omit [DecidableEq κ] in
/-- Of two maps with as many entries, one that has all keys of the other has no more. -/
theorem mem_keys_of_forall_mem {left right : OrderedMap κ ν} (size : left.size = right.size)
    (inside : ∀ key ∈ left.keys, key ∈ right.keys) {key : κ} (listed : key ∈ right.keys) :
    key ∈ left.keys := by
  have within : List.Subperm left.keys right.keys := List.Nodup.subperm left.distinct inside
  have fill : right.keys.length ≤ left.keys.length := by
    rw [keys, keys, List.length_map, List.length_map]
    exact Nat.le_of_eq size.symm
  exact (within.perm_of_length_le fill).mem_iff.mpr listed

/-- Maps with the same keys in the same order and the same values are the same. -/
theorem ext_get? {left right : OrderedMap κ ν} (keys : left.keys = right.keys)
    (values : ∀ key, left.get? key = right.get? key) : left = right := by
  have entries (map : OrderedMap κ ν) :
      map.entries.map some = map.keys.map fun key => (map.get? key).map (Prod.mk key) := by
    rw [OrderedMap.keys, List.map_map]
    apply List.map_congr_left
    intro entry inside
    rw [Function.comp_apply, get?_of_mem inside]
    rfl
  have same : left.entries.map some = right.entries.map some := by
    rw [entries, entries, keys]
    exact List.map_congr_left fun key _ => by rw [values]
  exact ext_entries ((List.map_inj_right fun _ _ => Option.some.inj).mp same)

/-- Removing a key leaves all others as they are. -/
theorem get?_erase (map : OrderedMap κ ν) (key other : κ) :
    (map.erase key).get? other = if key = other then none else map.get? other := by
  rw [get?, erase, List.find?_filter, get?]
  by_cases same : key = other
  · subst same
    rw [if_pos rfl, List.find?_eq_none.mpr fun entry _ found => ?_]
    · rfl
    · simp at found
  · rw [if_neg same]
    refine congrArg (Option.map Prod.snd) (congrArg (List.find? · map.entries) (funext fun entry => ?_))
    by_cases here : entry.1 = other
    · simp [here, Ne.symm same]
    · simp [here]

/-- The keys that stay keep their order. -/
theorem keys_erase (map : OrderedMap κ ν) (key : κ) :
    (map.erase key).keys = map.keys.filter fun other => decide (other ≠ key) := by
  rw [keys, erase, keys, List.filter_map]
  rfl

/-- A key that is there keeps its place, any other comes last. -/
theorem keys_insert (map : OrderedMap κ ν) (key : κ) (value : ν) :
    (map.insert key value).keys = if key ∈ map.keys then map.keys else map.keys ++ [key] := by
  have present := contains_iff_mem_keys map key
  by_cases inside : key ∈ map.keys
  · rw [if_pos inside, keys_insert_of_contains _ (present.mpr inside)]
  · rw [if_neg inside, keys_insert_of_not_contains _ (by simpa using present.not.mpr inside)]

/-- The map has one key with a value, in its place when it is a key already, behind all others when it is
not. -/
structure IsWritten (map : OrderedMap κ ν) (key : κ) (value : ν) (written : OrderedMap κ ν) : Prop where
  keys : written.keys = if key ∈ map.keys then map.keys else map.keys ++ [key]
  value : written.get? key = some value
  others : ∀ other, other ≠ key → written.get? other = map.get? other

/-- What is written is inserted. -/
theorem isWritten_iff {map written : OrderedMap κ ν} {key : κ} {value : ν} :
    map.IsWritten key value written ↔ written = map.insert key value := by
  constructor
  · rintro ⟨keys, here, others⟩
    refine ext_get? (keys.trans (keys_insert map key value).symm) fun other => ?_
    rw [get?_insert]
    split_ifs with same
    · rw [← same, here]
    · exact others other (Ne.symm same)
  · rintro rfl
    refine ⟨keys_insert map key value, ?_, fun other different => ?_⟩
    · rw [get?_insert, if_pos rfl]
    · rw [get?_insert, if_neg (Ne.symm different)]

/-! ### Maps of entries -/

/-- The last value of a key among some entries. -/
def lastValue? (entries : List (κ × ν)) (key : κ) : Option ν :=
  (entries.reverse.find? (·.1 = key)).map Prod.snd

/-- The map has the keys of some entries, each in the place of its first entry and with the value of its
last one. -/
structure Binds (map : OrderedMap κ ν) (entries : List (κ × ν)) : Prop where
  keys : map.keys = (entries.map Prod.fst).eraseDups
  values : ∀ key, map.get? key = lastValue? entries key

theorem lastValue?_concat (entries : List (κ × ν)) (entry : κ × ν) (key : κ) :
    lastValue? (entries ++ [entry]) key =
      if entry.1 = key then some entry.2 else lastValue? entries key := by
  rw [lastValue?, List.reverse_concat, List.find?_cons, lastValue?]
  by_cases same : entry.1 = key <;> simp [same]

theorem eraseDups_concat (keys : List κ) (key : κ) :
    (keys ++ [key]).eraseDups = if key ∈ keys then keys.eraseDups else keys.eraseDups ++ [key] := by
  rw [List.eraseDups_append]
  by_cases inside : key ∈ keys <;> simp [List.removeAll, inside, List.eraseDups_cons]

/-- One more entry. -/
theorem Binds.insert {map : OrderedMap κ ν} {entries : List (κ × ν)} (binds : map.Binds entries)
    (entry : κ × ν) : (map.insert entry.1 entry.2).Binds (entries ++ [entry]) where
  keys := by
    rw [List.map_append, List.map_singleton, eraseDups_concat]
    simp only [keys_insert, binds.keys, List.mem_eraseDups]
  values key := by
    rw [get?_insert, lastValue?_concat, binds.values]

/-- Entries written from the left leave the map that they bind. -/
theorem ofList_concat (entries : List (κ × ν)) (key : κ) (value : ν) :
    ofList (entries ++ [(key, value)]) = (ofList entries).insert key value := by
  rw [ofList, insertAll, List.foldl_concat]
  rfl

/-- **What is built entry by entry has the keys in the order in which they came first, and their last
values.** -/
theorem binds_ofList (entries : List (κ × ν)) : (ofList entries).Binds entries := by
  induction entries using List.reverseRecOn with
  | nil => exact ⟨rfl, fun _ => rfl⟩
  | append_singleton entries entry ih =>
    rw [ofList, insertAll, List.foldl_append]
    exact ih.insert entry

/-- A map holds nothing but entries that it binds. -/
theorem Binds.mem_of_mem {map : OrderedMap κ ν} {entries : List (κ × ν)} (binds : map.Binds entries)
    {entry : κ × ν} (inside : entry ∈ map.entries) : entry ∈ entries := by
  have found := (binds.values entry.1).symm.trans (get?_of_mem inside)
  obtain ⟨other, last, value⟩ := Option.map_eq_some_iff.mp found
  have same := List.find?_some last
  rw [← Prod.ext (of_decide_eq_true same) value]
  exact List.mem_reverse.mp (List.mem_of_find?_eq_some last)

/-- No other map is bound by the entries. -/
theorem Binds.eq_ofList {map : OrderedMap κ ν} {entries : List (κ × ν)} (binds : map.Binds entries) :
    map = ofList entries := by
  have built := binds_ofList entries
  apply ext_get?
  · rw [binds.keys, built.keys]
  · intro key
    rw [binds.values, built.values]

theorem eraseDups_of_nodup {keys : List κ} (distinct : keys.Nodup) : keys.eraseDups = keys := by
  induction keys with
  | nil => rfl
  | cons key keys ih =>
    obtain ⟨fresh, distinct⟩ := List.nodup_cons.mp distinct
    have kept : keys.filter (fun other => !other == key) = keys := by
      rw [List.filter_eq_self]
      intro other inside
      have different : other ≠ key := fun same => fresh (same ▸ inside)
      simpa using different
    rw [List.eraseDups_cons, kept, ih distinct]

/-- Of distinct keys the last value is the only one. -/
theorem lastValue?_entries (map : OrderedMap κ ν) (key : κ) :
    lastValue? map.entries key = map.get? key := by
  let backward : OrderedMap κ ν :=
    ⟨map.entries.reverse, by rw [List.map_reverse]; exact List.nodup_reverse.mpr map.distinct⟩
  show backward.get? key = map.get? key
  by_cases present : ∃ entry ∈ map.entries, entry.1 = key
  · obtain ⟨entry, inside, rfl⟩ := present
    rw [get?_of_mem inside, get?_of_mem (List.mem_reverse.mpr inside)]
  · have absent : ∀ entry ∈ map.entries, ¬ decide (entry.1 = key) = true := fun entry inside same =>
      present ⟨entry, inside, of_decide_eq_true same⟩
    rw [get?, get?, List.find?_eq_none.mpr absent, List.find?_eq_none.mpr]
    exact fun entry inside => absent entry (List.mem_reverse.mp inside)

theorem binds_entries (map : OrderedMap κ ν) : map.Binds map.entries where
  keys := (eraseDups_of_nodup map.distinct).symm
  values key := (lastValue?_entries map key).symm

/-- The entries of a map leave the map. -/
theorem ofList_entries (map : OrderedMap κ ν) : ofList map.entries = map :=
  (binds_entries map).eq_ofList.symm

/-! ### One map over another -/

/-- The map has the keys of the lower map in their places and the other keys of the upper one behind them.
What the upper map says comes first. -/
structure IsOverlay (below above map : OrderedMap κ ν) : Prop where
  keys : map.keys = below.keys ++ above.keys.filter (· ∉ below.keys)
  values : ∀ key, map.get? key = (above.get? key).or (below.get? key)

/-- No other map is the same overlay. -/
theorem IsOverlay.unique {below above map other : OrderedMap κ ν} (first : IsOverlay below above map)
    (second : IsOverlay below above other) : map = other :=
  ext_get? (first.keys.trans second.keys.symm) fun key => (first.values key).trans (second.values key).symm

/-- Entries that are inserted into a map are read behind those of the map. -/
theorem insertAll_eq_ofList (map : OrderedMap κ ν) (entries : List (κ × ν)) :
    map.insertAll entries = ofList (map.entries ++ entries) := by
  rw [ofList, insertAll, insertAll, List.foldl_append]
  show _ = List.foldl _ (ofList map.entries) entries
  rw [ofList_entries]

theorem eraseDups_filter (kept : κ → Bool) (keys : List κ) :
    (keys.filter kept).eraseDups = keys.eraseDups.filter kept := by
  induction keys using List.reverseRecOn with
  | nil => rfl
  | append_singleton keys key ih =>
    rw [List.filter_append, eraseDups_concat]
    cases here : kept key with
    | false =>
      rw [List.filter_cons_of_neg (by simp [here]), List.filter_nil, List.append_nil, ih]
      split <;> simp [here]
    | true =>
      rw [List.filter_cons_of_pos here, List.filter_nil, eraseDups_concat, ih]
      by_cases inside : key ∈ keys <;> simp [inside, here]

/-- A value behind hides the one in front. -/
theorem lastValue?_append (front back : List (κ × ν)) (key : κ) :
    lastValue? (front ++ back) key = (lastValue? back key).or (lastValue? front key) := by
  rw [lastValue?, List.reverse_append, List.find?_append, Option.map_or]
  rfl

/-- Entries are written over a map as the map that they leave is. -/
theorem isOverlay_insertAll (below : OrderedMap κ ν) (entries : List (κ × ν)) :
    IsOverlay below (ofList entries) (below.insertAll entries) where
  keys := by
    have apart : (entries.map Prod.fst).removeAll (below.entries.map Prod.fst) =
        (entries.map Prod.fst).filter fun key => decide (key ∉ below.keys) := by
      rw [List.removeAll]
      refine List.filter_congr fun key _ => ?_
      rw [List.elem_eq_mem, decide_not]
      rfl
    rw [insertAll_eq_ofList, (binds_ofList _).keys, List.map_append, List.eraseDups_append, apart,
      eraseDups_filter, (binds_ofList entries).keys, eraseDups_of_nodup below.distinct]
    rfl
  values key := by
    rw [insertAll_eq_ofList, (binds_ofList _).values, lastValue?_append, lastValue?_entries,
      (binds_ofList entries).values]

/-- Laying a map over another is an overlay. -/
theorem isOverlay_overlay (below above : OrderedMap κ ν) : IsOverlay below above (below.overlay above) := by
  have written := isOverlay_insertAll below above.entries
  rwa [ofList_entries] at written

/-! ### Functions on values -/

section MapValues

variable {μ : Type}

/-- The map with a function applied to all values. -/
def mapValues (f : ν → μ) (map : OrderedMap κ ν) : OrderedMap κ μ :=
  ⟨map.entries.map fun entry => (entry.1, f entry.2), by
    rw [List.map_map]
    exact map.distinct⟩

omit [DecidableEq κ] in
theorem keys_mapValues (f : ν → μ) (map : OrderedMap κ ν) : (map.mapValues f).keys = map.keys := by
  rw [keys, keys, mapValues, List.map_map]
  rfl

theorem get?_mapValues (f : ν → μ) (map : OrderedMap κ ν) (key : κ) :
    (map.mapValues f).get? key = (map.get? key).map f := by
  rw [get?, mapValues, List.find?_map, Option.map_map, get?, Option.map_map]
  rfl

/-- Distinct values make distinct maps. -/
theorem mapValues_inj {f : ν → μ} (injective : Function.Injective f) {first second : OrderedMap κ ν} :
    first.mapValues f = second.mapValues f ↔ first = second := by
  refine ⟨fun same => ext_get? ?_ fun key => Option.map_injective injective ?_, congrArg _⟩
  · rw [← keys_mapValues f, same, keys_mapValues]
  · rw [← get?_mapValues, same, get?_mapValues]

/-- Values may be mapped before they are inserted. -/
theorem mapValues_insert (f : ν → μ) (map : OrderedMap κ ν) (key : κ) (value : ν) :
    (map.insert key value).mapValues f = (map.mapValues f).insert key (f value) := by
  apply ext_get?
  · rw [keys_mapValues, keys_insert, keys_insert, keys_mapValues]
  · intro other
    rw [get?_mapValues, get?_insert, get?_insert, get?_mapValues, apply_ite (Option.map f)]
    rfl

/-- A map has values of a function just when all its entries have. -/
theorem exists_mapValues_iff {f : ν → μ} {map : OrderedMap κ μ} :
    (∃ origin : OrderedMap κ ν, map = origin.mapValues f) ↔
      ∀ key value, map.get? key = some value → ∃ origin, value = f origin := by
  constructor
  · rintro ⟨origin, rfl⟩ key value found
    rw [get?_mapValues] at found
    obtain ⟨first, _, rfl⟩ := Option.map_eq_some_iff.mp found
    exact ⟨first, rfl⟩
  · intro each
    obtain ⟨entries, distinct⟩ := map
    have listed : ∀ entry ∈ entries, ∃ origin, entry.2 = f origin := by
      intro entry inside
      have bound : (OrderedMap.mk entries distinct).get? entry.1 = some entry.2 := get?_of_mem inside
      exact each entry.1 entry.2 bound
    obtain ⟨origins, same⟩ : ∃ origins : List (κ × ν),
        entries = origins.map fun entry => (entry.1, f entry.2) := by
      clear distinct each
      induction entries with
      | nil => exact ⟨[], rfl⟩
      | cons entry entries ih =>
        obtain ⟨⟨origin, here⟩, behind⟩ := List.forall_mem_cons.mp listed
        obtain ⟨origins, rfl⟩ := ih behind
        exact ⟨(entry.1, origin) :: origins, by rw [List.map_cons, ← here]⟩
    subst same
    have keys : (origins.map Prod.fst).Nodup := by
      rwa [List.map_map] at distinct
    exact ⟨⟨origins, keys⟩, rfl⟩

/-- An overlay is one before and after values are mapped, when no two are made equal. -/
theorem isOverlay_mapValues_iff {f : ν → μ} (injective : Function.Injective f)
    {below above map : OrderedMap κ ν} :
    IsOverlay (below.mapValues f) (above.mapValues f) (map.mapValues f) ↔ IsOverlay below above map := by
  constructor
  · rintro ⟨keys, values⟩
    refine ⟨by simpa only [keys_mapValues] using keys, fun key => ?_⟩
    have here := values key
    rw [get?_mapValues, get?_mapValues, get?_mapValues, ← Option.map_or] at here
    exact Option.map_injective injective here
  · rintro ⟨keys, values⟩
    refine ⟨by simpa only [keys_mapValues] using keys, fun key => ?_⟩
    rw [get?_mapValues, get?_mapValues, get?_mapValues, ← Option.map_or, values]

/-- Entries that are written over values of a function leave such values just when they have them. -/
theorem insertAll_mapValues_iff {f : ν → μ} (injective : Function.Injective f)
    {below map : OrderedMap κ ν} {entries : List (κ × μ)} :
    (below.mapValues f).insertAll entries = map.mapValues f ↔
      ∃ above : OrderedMap κ ν, ofList entries = above.mapValues f ∧ IsOverlay below above map := by
  have written := isOverlay_insertAll (below.mapValues f) entries
  constructor
  · intro same
    rw [same] at written
    obtain ⟨above, origin⟩ : ∃ above : OrderedMap κ ν, ofList entries = above.mapValues f := by
      refine exists_mapValues_iff.mpr fun key value found => ?_
      have here := written.values key
      rw [found, Option.some_or] at here
      exact exists_mapValues_iff.mp ⟨map, rfl⟩ key value here
    rw [origin] at written
    exact ⟨above, origin, (isOverlay_mapValues_iff injective).mp written⟩
  · rintro ⟨above, origin, overlay⟩
    rw [origin] at written
    exact written.unique ((isOverlay_mapValues_iff injective).mpr overlay)

end MapValues

end BlockPage.OrderedMap
