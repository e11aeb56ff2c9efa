/-
**Values that are read as maps.**

A map is read as it is. Anything else is gone through, and each of its items must be a pair of which the
first part can be a key.

* `IsPair`, `IsMapLike`, `exists_toEntries_iff`: the values that are read as maps.
* `IsUneven`, `IsRagged`: a sequence in which the first item that is no such pair has parts, but not two.
* `kind_toEntries`: a value that is not read as a map is of a bad kind, unless it is ragged.
-/

import BlockPage.Proofs.Traversal
import BlockPage.Value.Conversion

namespace BlockPage.Value

/-! ### Items -/

/-- The item is a pair whose first part can be a key. -/
def IsPair (item : Value) : Prop :=
  ∃ key value, item.items? = some [key, value] ∧ key.keyFault? = none

/-- The item has parts, but not two of them. -/
def IsUneven (item : Value) : Prop := ∃ parts, item.items? = some parts ∧ parts.length ≠ 2

/-- An item converts to a pair when it is one of a key and a value. -/
theorem exists_toPair_iff {index : Nat} {item : Value} :
    (∃ pair, toPair index item = .ok pair) ↔ item.IsPair := by
  unfold toPair IsPair
  split
  next unlisted =>
    refine iff_of_false (fun ⟨_, passed⟩ => nomatch passed) ?_
    rintro ⟨key, value, parts, _⟩
    rw [unlisted] at parts
    cases parts
  next key value parts =>
    rw [parts, requireKey]
    cases fault : key.keyFault? with
    | none => exact iff_of_true ⟨_, rfl⟩ ⟨key, value, rfl, fault⟩
    | some kind =>
      refine iff_of_false (fun ⟨_, passed⟩ => nomatch passed) ?_
      rintro ⟨_, _, ⟨⟩, hashable⟩
      rw [fault] at hashable
      cases hashable
  next parts other listed =>
    refine iff_of_false (fun ⟨_, passed⟩ => nomatch passed) ?_
    rintro ⟨key, value, same, _⟩
    rw [listed] at same
    exact other key value (Option.some.inj same)

/-- An item that is no pair of a key and a value is of a bad kind, unless it is uneven. -/
theorem kind_toPair {index : Nat} {item : Value} {problem : Problem}
    (refused : toPair index item = .error problem) :
    (item.IsUneven ∧ problem.kind = .badValue) ∨ (¬ item.IsUneven ∧ problem.kind = .typeMismatch) := by
  unfold toPair at refused
  split at refused
  next unlisted =>
    cases refused
    refine .inr ⟨?_, rfl⟩
    rintro ⟨parts, same, _⟩
    rw [unlisted] at same
    cases same
  next key value parts =>
    rw [requireKey] at refused
    refine .inr ⟨?_, ?_⟩
    · rintro ⟨others, same, uneven⟩
      rw [parts] at same
      cases same
      exact uneven rfl
    · cases fault : key.keyFault? <;> rw [fault] at refused <;> cases refused
      rfl
  next parts other listed =>
    cases refused
    refine .inl ⟨⟨parts, listed, fun two => ?_⟩, rfl⟩
    obtain ⟨key, value, rfl⟩ := List.length_eq_two.mp two
    exact other key value rfl

/-! ### Sequences of items -/

/-- The value is no map and is gone through item by item. -/
structure IsSequence (value : Value) (items : List Value) : Prop where
  noMap : ∀ entries, value ≠ .map entries
  noKeys : value.callFault? "keys" = none
  items : value.items? = some items

/-- The value can be read as a map. -/
def IsMapLike (value : Value) : Prop :=
  (∃ entries, value = .map entries) ∨ ∃ items, value.IsSequence items ∧ ∀ item ∈ items, item.IsPair

/-- The value is a sequence whose first item that is no pair of a key and a value is uneven. -/
def IsRagged (value : Value) : Prop :=
  ∃ before item behind, value.IsSequence (before ++ item :: behind) ∧
    (∀ other ∈ before, other.IsPair) ∧ item.IsUneven

section Sequences

variable {value : Value} {items : List Value} {problem : Problem}

/-- A sequence converts item by item. -/
theorem IsSequence.toEntries_eq (sequence : value.IsSequence items) :
    value.toEntries = (items.zipIdx.mapM fun item => toPair item.2 item.1).map Entries.ofPairs := by
  obtain ⟨noMap, noKeys, listed⟩ := sequence
  unfold toEntries
  split
  · exact absurd rfl (noMap _)
  · rw [noKeys, Value.items, listed]
    rfl

/-- A sequence converts when all of its items are pairs. -/
theorem IsSequence.exists_toEntries_iff (sequence : value.IsSequence items) :
    (∃ entries, value.toEntries = .ok entries) ↔ ∀ item ∈ items, item.IsPair := by
  have traversal : (∃ entries, value.toEntries = .ok entries) ↔
      ∃ pairs, (items.zipIdx.mapM fun item => toPair item.2 item.1) = .ok pairs := by
    rw [sequence.toEntries_eq]
    cases items.zipIdx.mapM fun item => toPair item.2 item.1 <;> simp [Except.map]
  rw [traversal, exists_mapM_eq_ok_iff]
  constructor
  · intro each item inside
    rw [← List.zipIdx_map_fst 0 items] at inside
    obtain ⟨entry, listed, rfl⟩ := List.mem_map.mp inside
    exact exists_toPair_iff.mp (each entry listed)
  · intro each entry inside
    exact exists_toPair_iff.mpr (each _ (List.fst_mem_of_mem_zipIdx inside))

/-- Reading a sequence fails at its first item that is no pair of a key and a value. -/
theorem IsSequence.split_of_toEntries (sequence : value.IsSequence items)
    (refused : value.toEntries = .error problem) : ∃ index before item behind,
      items = before ++ item :: behind ∧ (∀ other ∈ before, other.IsPair) ∧
        toPair index item = .error problem := by
  rw [sequence.toEntries_eq] at refused
  have fails : (items.zipIdx.mapM fun item => toPair item.2 item.1) = .error problem := by
    cases traversed : items.zipIdx.mapM fun item => toPair item.2 item.1 with
    | ok pairs => rw [traversed] at refused; cases refused
    | error other => rw [traversed] at refused; cases refused; rfl
  obtain ⟨before, ⟨item, index⟩, behind, split, passed, here⟩ := mapM_eq_error_iff.mp fails
  refine ⟨index, before.map Prod.fst, item, behind.map Prod.fst, ?_, fun other inside => ?_, here⟩
  · rw [← List.zipIdx_map_fst 0 items, split, List.map_append, List.map_cons]
  · obtain ⟨entry, listed, rfl⟩ := List.mem_map.mp inside
    exact exists_toPair_iff.mp (passed entry listed)

/-- The refusal of the first item that is no pair is that of the sequence. -/
theorem IsSequence.toEntries_of_split {before behind : List Value} {item : Value}
    (sequence : value.IsSequence (before ++ item :: behind)) (passed : ∀ other ∈ before, other.IsPair)
    (fails : ¬ item.IsPair) :
    ∃ index problem, toPair index item = .error problem ∧ value.toEntries = .error problem := by
  cases here : toPair before.length item with
  | ok pair => exact absurd (exists_toPair_iff.mp ⟨pair, here⟩) fails
  | error problem =>
    refine ⟨before.length, problem, here, ?_⟩
    have refused : ((before ++ item :: behind).zipIdx.mapM fun item => toPair item.2 item.1) =
        .error problem := by
      refine mapM_eq_error_iff.mpr ⟨before.zipIdx, (item, before.length),
        behind.zipIdx (before.length + 1), ?_, fun entry inside => ?_, here⟩
      · rw [List.zipIdx_append, List.zipIdx_cons, Nat.zero_add]
      · exact exists_toPair_iff.mpr (passed _ (List.fst_mem_of_mem_zipIdx inside))
    rw [sequence.toEntries_eq, refused]
    rfl

/-- What is neither a map nor gone through is of a bad kind. -/
theorem kind_toEntries_of_not_sequence (noMap : ∀ entries, value ≠ .map entries)
    (noItems : ∀ items, ¬ value.IsSequence items) :
    ∃ problem, value.toEntries = .error problem ∧ problem.kind = .typeMismatch := by
  unfold toEntries
  split
  · exact absurd rfl (noMap _)
  · cases calls : value.callFault? "keys" with
    | some problem =>
      refine ⟨problem, rfl, ?_⟩
      cases value with
      | pageSettings page extras =>
        obtain ⟨_, _, rfl⟩ := Option.map_eq_some_iff.mp calls
        rfl
      | _ => cases calls
    | none =>
      cases listed : value.items? with
      | some items => exact absurd ⟨noMap, calls, listed⟩ (noItems items)
      | none =>
        refine ⟨value.notIterable, ?_, rfl⟩
        rw [Value.items, listed]
        rfl

theorem IsRagged.noMap (ragged : value.IsRagged) (entries : Entries) : value ≠ .map entries := by
  obtain ⟨_, _, _, sequence, _⟩ := ragged
  exact sequence.noMap entries

/-- An uneven item is no pair. -/
theorem IsUneven.not_isPair {item : Value} (uneven : item.IsUneven) : ¬ item.IsPair := by
  obtain ⟨parts, listed, other⟩ := uneven
  rintro ⟨key, value, two, _⟩
  rw [listed] at two
  exact other (congrArg List.length (Option.some.inj two))

/-- **What is ragged is refused as a bad value**, since a pair fails for its length before anything fails for
its kind. -/
theorem IsRagged.toEntries (ragged : value.IsRagged) :
    ∃ problem, value.toEntries = .error problem ∧ problem.kind = .badValue := by
  obtain ⟨before, item, behind, sequence, passed, uneven⟩ := ragged
  obtain ⟨index, problem, here, refused⟩ := sequence.toEntries_of_split passed uneven.not_isPair
  obtain ⟨_, kind⟩ | ⟨even, _⟩ := kind_toPair here
  · exact ⟨problem, refused, kind⟩
  · exact absurd uneven even

/-- **What converts to a map is a map or a sequence of pairs.** -/
theorem exists_toEntries_iff : (∃ entries, value.toEntries = .ok entries) ↔ value.IsMapLike := by
  by_cases isMap : ∃ entries, value = .map entries
  · obtain ⟨entries, rfl⟩ := isMap
    exact iff_of_true ⟨entries, rfl⟩ (.inl ⟨entries, rfl⟩)
  · rw [IsMapLike, or_iff_right isMap]
    by_cases isSequence : ∃ items, value.IsSequence items
    · obtain ⟨items, sequence⟩ := isSequence
      rw [sequence.exists_toEntries_iff]
      refine ⟨fun each => ⟨items, sequence, each⟩, ?_⟩
      rintro ⟨others, other, each⟩
      rwa [Option.some.inj (sequence.items.symm.trans other.items)]
    · refine iff_of_false ?_ fun ⟨items, sequence, _⟩ => isSequence ⟨items, sequence⟩
      obtain ⟨problem, refused, _⟩ :=
        kind_toEntries_of_not_sequence (not_exists.mp isMap) (not_exists.mp isSequence)
      rw [refused]
      exact not_exists_error problem

/-- A value that is not read as a map is of a bad kind, unless it is ragged. -/
theorem kind_toEntries (refused : value.toEntries = .error problem) :
    (value.IsRagged ∧ problem.kind = .badValue) ∨ (¬ value.IsRagged ∧ problem.kind = .typeMismatch) := by
  by_cases ragged : value.IsRagged
  · obtain ⟨other, same, kind⟩ := ragged.toEntries
    rw [refused] at same
    cases same
    exact .inl ⟨ragged, kind⟩
  · refine .inr ⟨ragged, ?_⟩
    have noMap : ∀ entries, value ≠ .map entries := by
      rintro entries rfl
      cases refused
    by_cases isSequence : ∃ items, value.IsSequence items
    · obtain ⟨items, sequence⟩ := isSequence
      obtain ⟨index, before, item, behind, rfl, passed, here⟩ := sequence.split_of_toEntries refused
      obtain ⟨uneven, _⟩ | ⟨_, kind⟩ := kind_toPair here
      · exact absurd ⟨before, item, behind, sequence, passed, uneven⟩ ragged
      · exact kind
    · obtain ⟨other, same, kind⟩ :=
        kind_toEntries_of_not_sequence noMap (not_exists.mp isSequence)
      rw [refused] at same
      cases same
      exact kind

end Sequences

end BlockPage.Value
