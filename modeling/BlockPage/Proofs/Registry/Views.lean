/-
**A registry is an ordered map of block types.**

A type stands under its own key, so a registry is the map from keys to types that its list is. Registering
binds a key, unregistering removes one, and the views are those of the map.

* `Registry.types`: the map; `types_register`, `types_unregister`: what changes do to it.
* `lookup?_eq`, `typeIds_eq`: the views of the map.
* `lookup?_register`, `lookup?_unregister`, `typeIds_register`, `typeIds_unregister`: a change seen through
  the views.
* `lookup?_typeId`, `contains_iff_lookup?`, `mem_typeIds_iff`: the views agree.
-/

import BlockPage.Proofs.OrderedMap
import BlockPage.Registry

namespace BlockPage

/-- The text of a type with the type. -/
def Definition.entry (definition : Definition) : Text × Definition := (definition.typeId, definition)

namespace Registry

/-- The types under their keys. -/
def types (registry : Registry) : OrderedMap Text Definition :=
  ⟨registry.definitions.map Definition.entry, by
    rw [List.map_map]
    exact registry.distinct⟩

end Registry

variable (registry : Registry)

/-! ### Views of the map -/

/-- The type that is found under a key is the one that the map has there. -/
theorem lookup?_eq (typeId : Text) : registry.lookup? typeId = registry.types.get? typeId := by
  rw [Registry.lookup?, OrderedMap.get?, Registry.types, List.find?_map, Option.map_map]
  exact (congrFun Option.map_id _).symm

theorem typeIds_eq : registry.typeIds = registry.types.keys := by
  rw [Registry.typeIds, OrderedMap.keys, Registry.types, List.map_map]
  rfl

theorem contains_eq (typeId : Text) : registry.contains typeId = registry.types.contains typeId := by
  rw [Registry.contains, OrderedMap.contains, Registry.types, List.any_map]
  rfl

/-- What is found under a key is one of the types, and bears that key. -/
theorem lookup?_typeId {registry : Registry} {definition : Definition} {typeId : Text}
    (found : registry.lookup? typeId = some definition) :
    definition.typeId = typeId ∧ definition ∈ registry.definitions := by
  have same := List.find?_some found
  exact ⟨of_decide_eq_true same, List.mem_of_find?_eq_some found⟩

/-- A registry contains just the keys under which it finds a type. -/
theorem contains_iff_lookup? (typeId : Text) :
    registry.contains typeId = (registry.lookup? typeId).isSome := by
  rw [Registry.contains, Registry.lookup?, List.isSome_find?]

/-- The keys that are listed are those under which a type is found. -/
theorem mem_typeIds_iff {typeId : Text} : typeId ∈ registry.typeIds ↔ registry.lookup? typeId ≠ none := by
  rw [typeIds_eq, lookup?_eq, Ne, OrderedMap.get?_eq_none_iff, not_not]

/-! ### Changes -/

/-- Registering binds the key of the type in the map, whether the type is new or replaces another. -/
theorem types_register (definition : Definition) :
    (registry.register definition).types = registry.types.insert definition.typeId definition := by
  by_cases present : registry.contains definition.typeId = true
  · have listed : registry.types.contains definition.typeId = true := contains_eq registry _ ▸ present
    rw [Registry.register, dif_pos present, OrderedMap.insert, dif_pos listed]
    refine OrderedMap.ext_entries ?_
    show (Registry.replaceType definition registry.definitions).map Definition.entry =
      OrderedMap.replaceEntry definition.typeId definition (registry.definitions.map Definition.entry)
    rw [Registry.replaceType, OrderedMap.replaceEntry, List.map_map, List.map_map]
    refine List.map_congr_left fun other _ => ?_
    by_cases same : other.typeId = definition.typeId <;> simp [Definition.entry, same]
  · have unlisted : ¬ registry.types.contains definition.typeId = true := contains_eq registry _ ▸ present
    rw [Registry.register, dif_neg present, OrderedMap.insert, dif_neg unlisted]
    exact OrderedMap.ext_entries List.map_append

/-- Unregistering takes a key out of the map; a key that is not there changes nothing. -/
theorem types_unregister (typeId : Text) :
    (registry.unregister typeId).types = registry.types.erase typeId := by
  refine OrderedMap.ext_entries ?_
  show (registry.definitions.filter _).map Definition.entry =
    (registry.definitions.map Definition.entry).filter _
  rw [List.filter_map]
  rfl

/-- Behind a registration the key has the new type, and every other key what it had. -/
theorem lookup?_register (definition : Definition) (typeId : Text) :
    (registry.register definition).lookup? typeId =
      if definition.typeId = typeId then some definition else registry.lookup? typeId := by
  rw [lookup?_eq, types_register, OrderedMap.get?_insert, lookup?_eq]

/-- Behind a removal the key has no type, and every other key what it had. -/
theorem lookup?_unregister (removed typeId : Text) :
    (registry.unregister removed).lookup? typeId =
      if removed = typeId then none else registry.lookup? typeId := by
  rw [lookup?_eq, types_unregister, OrderedMap.get?_erase, lookup?_eq]

/-- A type that is registered again keeps its place, any other comes last. -/
theorem typeIds_register (definition : Definition) :
    (registry.register definition).typeIds =
      if definition.typeId ∈ registry.typeIds then registry.typeIds
      else registry.typeIds ++ [definition.typeId] := by
  rw [typeIds_eq, types_register, typeIds_eq, OrderedMap.keys_insert]
  split_ifs <;> rfl

/-- The types that stay keep their order. -/
theorem typeIds_unregister (removed : Text) :
    (registry.unregister removed).typeIds =
      registry.typeIds.filter fun typeId => decide (typeId ≠ removed) := by
  rw [typeIds_eq, types_unregister, OrderedMap.keys_erase, typeIds_eq]

end BlockPage
