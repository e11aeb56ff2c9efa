/-
**Registries by category.**

A category lists its types in the order of all types, as many as are counted for it, and so each type is
listed under its own category alone. But to ask for the empty category is to ask for none: it lists all types.
A registry that has it beside others lists some types twice.

* `Registry.Splits`: some categories list their own types, and every type of one of them just once.
* `list_named`, `get?_categoryCounts`: what a category lists, and what is counted for it.
* `splits_named`, `splits_iff`: the categories that are not empty always do so, and when all of them do.
* `listsCategories_history`: all of it, behind any history; `not_splits_unnamed`: a type that is listed twice.
-/

import BlockPage.Proofs.Registry.Histories

namespace BlockPage

/-- Each of some categories lists its own types in the order of all types, as many as are counted for it, and
every type of one of them is listed under one of them alone. -/
structure Registry.Splits (registry : Registry) (categories : List Text) : Prop where
  listed : ∀ category ∈ categories, registry.list (some category) =
    (registry.list none).filter fun definition => definition.category = category
  counted : ∀ category ∈ categories,
    registry.categoryCounts.get? category = some (registry.list (some category)).length
  once : ∀ definition ∈ registry.list none, definition.category ∈ categories →
    ∃! category, category ∈ categories ∧ definition ∈ registry.list (some category)

section Lists

variable (registry : Registry)

/-- A category that is not empty lists its own types. -/
theorem list_named {category : Text} (named : category ≠ []) : registry.list (some category) =
    (registry.list none).filter fun definition => definition.category = category := by
  cases category with
  | nil => exact absurd rfl named
  | cons => rfl

/-- As many types are counted for a category as it has. -/
theorem get?_categoryCounts {category : Text} (inside : category ∈ registry.categories) :
    registry.categoryCounts.get? category =
      some ((registry.list none).filter fun definition => definition.category = category).length := by
  obtain ⟨positive, _, keys, _, _⟩ := countsCategories registry
  have present : category ∈ registry.categoryCounts.keys := (keys category).mpr inside
  cases found : registry.categoryCounts.get? category with
  | none => exact absurd present (OrderedMap.get?_eq_none_iff.mp found)
  | some count => rw [(positive category count found).2, categorySize, List.countP_eq_length_filter]

/-- Where categories list their own types, these are counted, and none is listed twice. -/
theorem splits_of_listed {categories : List Text} (inside : categories ⊆ registry.categories)
    (listed : ∀ category ∈ categories, registry.list (some category) =
      (registry.list none).filter fun definition => definition.category = category) :
    registry.Splits categories where
  listed := listed
  counted category here := by rw [listed category here, get?_categoryCounts registry (inside here)]
  once definition present here := by
    refine ⟨definition.category, ⟨here, ?_⟩, ?_⟩
    · rw [listed _ here]
      exact List.mem_filter.mpr ⟨present, decide_eq_true rfl⟩
    · rintro other ⟨also, member⟩
      rw [listed other also] at member
      exact (of_decide_eq_true (List.mem_filter.mp member).2).symm

/-- The categories that are not empty split their types. -/
theorem splits_named : registry.Splits (registry.categories.filter (· ≠ [])) :=
  splits_of_listed registry (List.filter_subset_self _) fun _ here =>
    list_named registry (of_decide_eq_true (List.mem_filter.mp here).2)

/-- All categories split all types unless an empty one is beside others. -/
theorem splits_iff : registry.Splits registry.categories ↔
    ([] ∈ registry.categories → ∀ category ∈ registry.categories, category = []) := by
  constructor
  · intro splits unnamed category here
    obtain ⟨definition, present, rfl⟩ := (mem_categories_iff registry).mp here
    -- the empty category lists all types, so it is that of every type
    have own : registry.definitions =
        registry.definitions.filter fun definition => definition.category = [] := splits.listed [] unnamed
    exact of_decide_eq_true (List.filter_eq_self.mp own.symm definition present)
  · intro alone
    refine splits_of_listed registry (List.Subset.refl _) fun category here => ?_
    by_cases named : category = []
    · subst named
      have unnamed : ∀ definition ∈ registry.list none, definition.category = [] := fun definition present =>
        alone here definition.category ((mem_categories_iff registry).mpr ⟨definition, present, rfl⟩)
      exact (List.filter_eq_self.mpr fun definition present =>
        decide_eq_true (unnamed definition present)).symm
    · exact list_named registry named

end Lists

/-- What a registry lists by category. -/
structure Registry.ListsCategories (registry : Registry) : Prop where
  /-- The categories that are not empty split their types. -/
  named : registry.Splits (registry.categories.filter (· ≠ []))
  /-- The empty category lists all types. -/
  unnamed : registry.list (some []) = registry.list none
  /-- All categories split all types unless an empty one is beside others. -/
  all_iff : registry.Splits registry.categories ↔
    ([] ∈ registry.categories → ∀ category ∈ registry.categories, category = [])

/-- **The categories of a registry split its types, but for an empty category.** -/
theorem listsCategories_history (style : Value) (changes : List Change) :
    (Registry.history style changes).ListsCategories :=
  ⟨splits_named _, rfl, splits_iff _⟩

/-- A type of the empty category and one of another. -/
def unnamedChanges : List Change :=
  [.register (plainType "note" [] ∅), .register (plainType "hero" "media" ∅)]

/-- The type with a category is listed under the empty one too. -/
theorem not_splits_unnamed :
    ¬ (Registry.history .absent unnamedChanges).Splits (Registry.history .absent unnamedChanges).categories := by
  intro splits
  have present : ∀ category ∈ [[], Text.ofString "media"],
      category ∈ (Registry.history .absent unnamedChanges).categories := by
    intro category here
    rw [mem_categories_iff, ← List.mem_map]
    exact here
  rw [splits_iff] at splits
  exact absurd (splits (present _ (.head _)) _ (present _ (.tail _ (.head _)))) (by decide)

end BlockPage
