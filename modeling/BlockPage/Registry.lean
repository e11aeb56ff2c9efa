/-
**The registry of block types.**

A registry keeps block types in the order of registration, at most one under each key, together with
the style that all pages share. Registering a key again replaces its type in place. The shared style is
only looked at when a page is resolved.

* `Registry.register`, `Registry.unregister`: the changes.
* `Registry.lookup?`, `Registry.list`, `Registry.categories`, `Registry.categoryCounts`: the views;
  `Registry.find` looks up a key of any kind.
* `Registry.createBlock`: a block of a registered type with its default configuration.
* `Registry.standard`: the registry of the standard library.
-/

import BlockPage.Block.Definition
import BlockPage.Intake.Block
import BlockPage.Library.Standard

namespace BlockPage

/-- Block types under distinct keys, in the order of registration. -/
structure Registry where
  baseStyle : Value
  definitions : List Definition
  distinct : (definitions.map Definition.typeId).Nodup

namespace Registry

/-- The registry without block types. -/
def empty (baseStyle : Value) : Registry := ⟨baseStyle, [], List.nodup_nil⟩

/-- The type of a key. -/
def lookup? (registry : Registry) (typeId : Text) : Option Definition :=
  registry.definitions.find? fun definition => definition.typeId = typeId

/-- The type of a key of any kind that can be a key. -/
def find (registry : Registry) (typeId : Value) : Except Problem (Option Definition) :=
  typeId.requireKey.map fun _ => typeId.text?.bind registry.lookup?

/-- The key has a type. -/
def contains (registry : Registry) (typeId : Text) : Bool :=
  registry.definitions.any fun definition => definition.typeId = typeId

/-- The keys in order. -/
def typeIds (registry : Registry) : List Text := registry.definitions.map Definition.typeId

/-- The number of types. -/
def size (registry : Registry) : Nat := registry.definitions.length

/-- The types with the one of a key replaced. -/
def replaceType (definition : Definition) (definitions : List Definition) : List Definition :=
  definitions.map fun other => if other.typeId = definition.typeId then definition else other

theorem map_typeId_replaceType (definition : Definition) (definitions : List Definition) :
    (replaceType definition definitions).map Definition.typeId
      = definitions.map Definition.typeId := by
  simp only [replaceType, List.map_map]
  apply List.map_congr_left
  intro other _
  by_cases same : other.typeId = definition.typeId <;> simp [same]

/-- Registers a type: in the place of the one with its key, or behind all others. -/
def register (registry : Registry) (definition : Definition) : Registry :=
  if present : registry.contains definition.typeId then
    ⟨registry.baseStyle, replaceType definition registry.definitions, by
      rw [map_typeId_replaceType]; exact registry.distinct⟩
  else
    ⟨registry.baseStyle, registry.definitions ++ [definition], by
      have absent : ∀ other ∈ registry.definitions, other.typeId ≠ definition.typeId :=
        fun other inside same =>
          present (List.any_eq_true.mpr ⟨other, inside, by simp [same]⟩)
      simp only [List.map_append, List.map_cons, List.map_nil, List.nodup_append]
      refine ⟨registry.distinct, by simp, ?_⟩
      intro first member second final
      obtain ⟨other, inside, rfl⟩ := List.mem_map.mp member
      rw [List.mem_singleton.mp final]
      exact absent other inside⟩

/-- Removes the type of a key. -/
def unregister (registry : Registry) (typeId : Text) : Registry :=
  ⟨registry.baseStyle, registry.definitions.filter fun definition => definition.typeId ≠ typeId,
    registry.distinct.sublist (List.filter_sublist.map _)⟩

/-- The registry with another shared style. -/
def withBaseStyle (registry : Registry) (style : Value) : Registry :=
  { registry with baseStyle := style }

/-! ### Views -/

/-- The types of a category, or all of them for none or an empty one. -/
def list (registry : Registry) (category : Option Text) : List Definition :=
  match category with
  | none | some [] => registry.definitions
  | some category => registry.definitions.filter fun definition => definition.category = category

/-- The categories in ascending order. -/
def categories (registry : Registry) : List Text :=
  (registry.definitions.map Definition.category).eraseDups.mergeSort Text.atMost

/-- One more type of a category. -/
def countCategory (counts : OrderedMap Text Nat) (definition : Definition) : OrderedMap Text Nat :=
  counts.insert definition.category ((counts.get? definition.category).getD 0 + 1)

/-- The number of types of each category, in the order in which categories first come. -/
def categoryCounts (registry : Registry) : OrderedMap Text Nat :=
  registry.definitions.foldl countCategory ∅

/-! ### Blocks of a type -/

/-- What is said of a type that is not registered. -/
def unknownTypeMessage (typeId : Value) : Except Problem Text :=
  typeId.displayed.map fun shown => Text.ofString "Unknown block type: " ++ shown

/-- A block of a type, its default configuration overlaid with other entries, under a fresh handle. -/
def createBlock (registry : Registry) (typeId : Value) (overrides : Entries) (fresh : Text) :
    Except Problem Block := do
  if overrides.any fun entry => entry.1.text?.isNone then
    .error (.typeMismatch "keywords must be strings")
  else match ← registry.find typeId with
    | none =>
      let message ← unknownTypeMessage typeId
      .error (.missingKey message)
    | some definition =>
      let config := Entries.overlay (Entries.ofConfig definition.defaults) overrides
      (Intake.readBlock (Intake.blockEntries typeId (.map config) (.text fresh))).toExcept

/-- The registry of some types over a shared style. -/
def ofList (baseStyle : Value) (definitions : List Definition) : Registry :=
  definitions.foldl register (empty baseStyle)

/-- The registry of the standard library. -/
def standard : Registry := ofList (.text Library.baseStyle) Library.standard

end Registry

end BlockPage
