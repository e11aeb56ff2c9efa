/-
**Blocks of a registered type.**

A block of a type has the default configuration of the type with the given entries written over it. That the
type is registered and that texts with scalars are given is all that it takes.

* `Entries.Gives`: entries that are a configuration.
* `Registry.IsNamed`: the keys of a registry are texts that blocks may have as types.
* `createBlock_eq_ok_iff`: the blocks that are made; `createBlock_of_unknown`: the refusal of a type.
-/

import BlockPage.Proofs.Intake.Blocks
import BlockPage.Proofs.Registry.Views
import BlockPage.Proofs.Traversal

namespace BlockPage

open Intake OrderedMap

/-- The entries are those of a configuration. Of equal keys the first gives the place and the last the
value. -/
def Entries.Gives (entries : Entries) (given : Config) : Prop :=
  ∃ pairs : List (Text × Value), entries = Entries.ofFields pairs ∧ ofList pairs = given.mapValues .scalar

theorem gives_ofConfig (config : Config) : (Entries.ofConfig config).Gives config :=
  ⟨_, Entries.ofConfig_eq_ofFields config, ofList_entries _⟩

/-- Every key of the registry may be the type of a block. -/
def Registry.IsNamed (registry : Registry) : Prop :=
  ∀ definition ∈ registry.definitions, IsTypeName definition.typeId

theorem scalar_injective : Function.Injective Value.scalar := fun _ _ same => Value.scalar.inj same

/-! ### The entries of a new block -/

/-- The entries are under texts just when they are named values. -/
theorem exists_ofFields_iff {entries : Entries} :
    (∃ pairs, entries = Entries.ofFields pairs) ↔
      (entries.any fun entry => entry.1.text?.isNone) = false := by
  induction entries with
  | nil => exact iff_of_true ⟨[], rfl⟩ rfl
  | cons entry entries ih =>
    rw [List.any_cons, Bool.or_eq_false_iff, ← ih]
    constructor
    · rintro ⟨pairs, same⟩
      obtain ⟨pair, others, rfl, rfl, rfl⟩ := List.map_eq_cons_iff.mp same.symm
      exact ⟨rfl, others, rfl⟩
    · rintro ⟨named, pairs, rfl⟩
      obtain ⟨key, value⟩ := entry
      cases text : key.text? with
      | none => simp [text] at named
      | some name =>
        obtain rfl := text?_eq_some_iff.mp text
        exact ⟨(name, value) :: pairs, rfl⟩

/-- What is laid over defaults reads as a configuration exactly when every value of it is one that a
configuration may hold. -/
theorem readConfig_overlay_iff {defaults config : Config} {pairs : List (Text × Value)} :
    readConfig .strict (.map ((Entries.ofConfig defaults).overlay (Entries.ofFields pairs))) = .fits config ↔
      ∃ given : Config, ofList pairs = given.mapValues .scalar ∧ IsOverlay defaults given config := by
  rw [Entries.ofConfig_eq_ofFields, Entries.overlay_ofFields, readConfig_ofFields_iff,
    insertAll_mapValues_iff scalar_injective]

/-! ### New blocks -/

section Creation

variable {registry : Registry} {typeId : Value} {overrides : Entries} {fresh : Text} {block : Block}

theorem find_text (registry : Registry) (name : Text) :
    registry.find (.text name) = .ok (registry.lookup? name) := rfl

/-- Only texts are found. -/
theorem exists_text_of_find {definition : Definition} (found : registry.find typeId = .ok (some definition)) :
    typeId = .text definition.typeId ∧ registry.lookup? definition.typeId = some definition := by
  obtain ⟨_, _, same⟩ := exists_of_map_eq_ok found
  obtain ⟨name, named, here⟩ := Option.bind_eq_some_iff.mp same
  obtain ⟨rfl, _⟩ := lookup?_typeId here
  exact ⟨text?_eq_some_iff.mp named, here⟩

/-- Entries under texts are never refused for their keys. -/
theorem createBlock_ofFields (registry : Registry) (typeId : Value) (pairs : List (Text × Value)) (fresh : Text) :
    registry.createBlock typeId (Entries.ofFields pairs) fresh = (do
      match ← registry.find typeId with
      | none =>
        let message ← Registry.unknownTypeMessage typeId
        .error (.missingKey message)
      | some definition =>
        (readBlock (blockEntries typeId
          (.map ((Entries.ofConfig definition.defaults).overlay (Entries.ofFields pairs)))
          (.ofOption (some fresh)))).toExcept) := by
  unfold Registry.createBlock
  rw [exists_ofFields_iff.mp ⟨pairs, rfl⟩]
  rfl

/-- A block of a known type is made exactly when the type may be named in a block and what is given is a
configuration. -/
theorem createBlock_of_lookup {definition : Definition} {name : Text} {pairs : List (Text × Value)}
    (registered : registry.lookup? name = some definition) :
    registry.createBlock (.text name) (Entries.ofFields pairs) fresh = .ok block ↔
      (name = block.typeId ∧ IsTypeName name) ∧
        (∃ given : Config, ofList pairs = given.mapValues .scalar ∧
          IsOverlay definition.defaults given block.config) ∧
        block.instanceId = some fresh := by
  rw [createBlock_ofFields, find_text, registered]
  show Checked.toExcept _ = _ ↔ _
  rw [Checked.toExcept_eq_ok_iff, readBlock_eq_fits_iff, readConfig_overlay_iff]
  constructor
  · rintro ⟨⟨same, named⟩, config, handle⟩
    cases same
    exact ⟨⟨rfl, named⟩, config, handle.symm⟩
  · rintro ⟨⟨rfl, named⟩, config, handle⟩
    exact ⟨⟨rfl, named⟩, config, handle.symm⟩

/-- An unknown type is refused as a missing key, before what is given is looked at. -/
theorem createBlock_of_unknown {name : Text} {pairs : List (Text × Value)}
    (unknown : registry.lookup? name = none) :
    registry.createBlock (.text name) (Entries.ofFields pairs) fresh =
      .error (.missingKey (Text.ofString "Unknown block type: " ++ name)) := by
  rw [createBlock_ofFields, find_text, unknown]
  rfl

/-- **A new block has the defaults of its type under what is given.** -/
theorem createBlock_eq_ok_iff :
    registry.createBlock typeId overrides fresh = .ok block ↔
      (typeId = .text block.typeId ∧ IsTypeName block.typeId) ∧
        (∃ definition given, registry.lookup? block.typeId = some definition ∧
          overrides.Gives given ∧ IsOverlay definition.defaults given block.config) ∧
        block.instanceId = some fresh := by
  constructor
  · intro made
    obtain ⟨pairs, rfl⟩ : ∃ pairs, overrides = Entries.ofFields pairs := by
      rw [exists_ofFields_iff]
      unfold Registry.createBlock at made
      split at made
      · cases made
      · next texts => exact Bool.not_eq_true _ ▸ texts
    have here := made
    rw [createBlock_ofFields] at here
    obtain ⟨found, sought, here⟩ := bind_eq_ok_iff.mp here
    cases found with
    | none =>
      obtain ⟨_, _, refused⟩ := bind_eq_ok_iff.mp here
      cases refused
    | some definition =>
      obtain ⟨rfl, registered⟩ := exists_text_of_find sought
      obtain ⟨⟨same, named⟩, ⟨given, isGiven, overlay⟩, handle⟩ :=
        (createBlock_of_lookup registered).mp made
      rw [← same]
      exact ⟨⟨rfl, named⟩, ⟨definition, given, registered, ⟨pairs, rfl, isGiven⟩, overlay⟩, handle⟩
  · rintro ⟨⟨rfl, named⟩, ⟨definition, given, registered, ⟨pairs, rfl, isGiven⟩, overlay⟩, handle⟩
    exact (createBlock_of_lookup registered).mpr
      ⟨⟨rfl, named⟩, ⟨given, isGiven, overlay⟩, handle⟩

end Creation

end BlockPage
