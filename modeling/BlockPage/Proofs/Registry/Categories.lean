/-
**Categories and their counts.**

The categories of a registry are counted one type after the other and listed in the order of texts. Both are
views of the same types: each category that is listed is counted, and every type is counted once.

* `Text.IsBefore`: the strict order of texts; `atMost_iff`, `atMost_total`, `atMost_trans`.
* `OrderedMap.total`: the sum of counts; `total_countCategory`: one type more makes it one more.
* `CountsOf`: what has been counted of some types; `CountsOf.concat`: one type more.
* `Registry.CountsCategories`, `countsCategories`: both views agree, for any registry.
-/

import BlockPage.Proofs.OrderedMap
import BlockPage.Registry
import Mathlib.Algebra.GroupWithZero.Nat

namespace BlockPage

/-! ### The order of texts -/

/-- The first text comes before the second one: at the first code point in which they differ it has the
lesser one, or it ends there. -/
def Text.IsBefore (first second : Text) : Prop := List.Lex (fun left right : CodePoint => left < right) first second

/-- Texts are compared at their first code points, and behind these where they agree there. -/
theorem atMost_cons {first second : CodePoint} {rest others : Text} :
    Text.atMost (first :: rest) (second :: others) = true ↔
      first < second ∨ first = second ∧ Text.atMost rest others = true := by
  simp [Text.atMost]

/-- The order of texts is the strict one with equality. -/
theorem atMost_iff {first second : Text} :
    Text.atMost first second = true ↔ first = second ∨ Text.IsBefore first second := by
  induction first generalizing second with
  | nil =>
    cases second with
    | nil => exact iff_of_true rfl (.inl rfl)
    | cons => exact iff_of_true rfl (.inr .nil)
  | cons point rest ih =>
    cases second with
    | nil => exact iff_of_false nofun (by rintro (⟨⟨⟩⟩ | ⟨⟨⟩⟩))
    | cons other others =>
      rw [atMost_cons, ih]
      constructor
      · rintro (less | ⟨rfl, rfl | before⟩)
        · exact .inr (.rel less)
        · exact .inl rfl
        · exact .inr (.cons before)
      · rintro (same | before)
        · obtain ⟨rfl, rfl⟩ := List.cons.inj same
          exact .inr ⟨rfl, .inl rfl⟩
        · cases before with
          | rel less => exact .inl less
          | cons before => exact .inr ⟨rfl, .inr before⟩

/-- Of two texts one comes before the other. -/
theorem atMost_total (first second : Text) : (Text.atMost first second || Text.atMost second first) = true := by
  rw [Bool.or_eq_true]
  induction first generalizing second with
  | nil => exact .inl rfl
  | cons point rest ih =>
    cases second with
    | nil => exact .inr rfl
    | cons other others =>
      rw [atMost_cons, atMost_cons]
      rcases Nat.lt_trichotomy point other with less | same | more
      · exact .inl (.inl less)
      · exact (ih others).imp (fun below => .inr ⟨same, below⟩) fun below => .inr ⟨same.symm, below⟩
      · exact .inr (.inl more)

/-- The order of texts can be chained. -/
theorem atMost_trans (first second third : Text) (below : Text.atMost first second = true)
    (above : Text.atMost second third = true) : Text.atMost first third = true := by
  induction first generalizing second third with
  | nil => rfl
  | cons point rest ih =>
    match second, third with
    | [], _ => cases below
    | _ :: _, [] => cases above
    | other :: others, last :: lasts =>
      rw [atMost_cons] at below above ⊢
      rcases below with less | ⟨rfl, below⟩
      · rcases above with more | ⟨rfl, _⟩
        · exact .inl (Nat.lt_trans less more)
        · exact .inl less
      · exact above.imp id fun ⟨same, above⟩ => ⟨same, ih others lasts below above⟩

/-! ### Lists without repetitions -/

/-- Nothing is repeated once repetitions are erased. -/
theorem nodup_eraseDups {α : Type} [BEq α] [LawfulBEq α] (items : List α) : items.eraseDups.Nodup := by
  match items with
  | [] => exact List.nodup_nil
  | item :: items =>
    rw [List.eraseDups_cons, List.nodup_cons, List.mem_eraseDups, List.mem_filter]
    refine ⟨?_, nodup_eraseDups _⟩
    simp
termination_by items.length
decreasing_by exact Nat.lt_succ_of_le (List.length_filter_le _ _)

/-! ### Counts -/

namespace OrderedMap

/-- The sum of all counts. -/
def total {κ : Type} (counts : OrderedMap κ Nat) : Nat := counts.values.sum

variable {κ : Type} [DecidableEq κ]

/-- Entries without a key are left alone when its value is replaced. -/
theorem replaceEntry_of_absent {key : κ} {entries : List (κ × Nat)} (absent : key ∉ entries.map Prod.fst)
    (count : Nat) : replaceEntry key count entries = entries := by
  refine (List.map_congr_left fun entry inside => if_neg fun same => ?_).trans (List.map_id entries)
  exact absent (same ▸ List.mem_map_of_mem inside)

/-- The entry of a key is counted once. -/
theorem sum_replaceEntry {key : κ} {count : Nat} {entries : List (κ × Nat)}
    (distinct : (entries.map Prod.fst).Nodup) (inside : (key, count) ∈ entries) :
    ((replaceEntry key (count + 1) entries).map Prod.snd).sum = (entries.map Prod.snd).sum + 1 := by
  induction entries with
  | nil => cases inside
  | cons entry entries ih =>
    obtain ⟨fresh, distinct⟩ := List.nodup_cons.mp distinct
    have first : replaceEntry key (count + 1) (entry :: entries) =
        (if entry.1 = key then (key, count + 1) else entry) :: replaceEntry key (count + 1) entries := rfl
    rw [first, List.map_cons, List.map_cons, List.sum_cons, List.sum_cons]
    rcases List.mem_cons.mp inside with rfl | inside
    · have kept : replaceEntry key (count + 1) entries = entries := replaceEntry_of_absent fresh _
      rw [kept, if_pos rfl]
      omega
    · have other : entry.1 ≠ key := fun same => fresh (same ▸ List.mem_map_of_mem inside)
      rw [if_neg other, ih distinct inside]
      omega

end OrderedMap

/-- One type more makes the sum of the counts of categories one more. -/
theorem total_countCategory (counts : OrderedMap Text Nat) (definition : Definition) :
    (Registry.countCategory counts definition).total = counts.total + 1 := by
  unfold Registry.countCategory OrderedMap.insert
  split
  · next present =>
    obtain ⟨⟨category, count⟩, inside, same⟩ := List.any_eq_true.mp present
    obtain rfl : category = definition.category := of_decide_eq_true same
    have found : counts.get? definition.category = some count := OrderedMap.get?_of_mem inside
    rw [found]
    exact OrderedMap.sum_replaceEntry counts.distinct inside
  · next absent =>
    have missing : counts.get? definition.category = none := by
      rw [OrderedMap.get?_eq_none_iff, ← OrderedMap.contains_iff_mem_keys]
      exact absent
    rw [missing]
    show ((counts.entries ++ [(definition.category, 1)]).map Prod.snd).sum = _
    rw [List.map_append, List.sum_append]
    rfl

/-! ### Categories of types -/

/-- The types of a category. -/
def categorySize (definitions : List Definition) (category : Text) : Nat :=
  definitions.countP fun definition => decide (definition.category = category)

/-- What has been counted of some types. -/
structure CountsOf (counts : OrderedMap Text Nat) (definitions : List Definition) : Prop where
  counted : ∀ category, counts.get? category =
    if categorySize definitions category = 0 then none else some (categorySize definitions category)
  total : counts.total = definitions.length

/-- One more type counts for its own category alone. -/
theorem categorySize_concat (definitions : List Definition) (definition : Definition) (category : Text) :
    categorySize (definitions ++ [definition]) category =
      categorySize definitions category + if definition.category = category then 1 else 0 := by
  rw [categorySize, List.countP_append, List.countP_singleton]
  simp only [decide_eq_true_iff]
  rfl

/-- One more type. -/
theorem CountsOf.concat {counts : OrderedMap Text Nat} {definitions : List Definition}
    (counts_of : CountsOf counts definitions) (definition : Definition) :
    CountsOf (Registry.countCategory counts definition) (definitions ++ [definition]) where
  counted category := by
    have before : (counts.get? definition.category).getD 0 = categorySize definitions definition.category := by
      rw [counts_of.counted]
      split_ifs with zero
      · exact zero.symm
      · rfl
    rw [Registry.countCategory, OrderedMap.get?_insert, before, categorySize_concat, counts_of.counted]
    by_cases same : definition.category = category
    · subst same
      rw [if_pos rfl, if_pos rfl, if_neg (Nat.succ_ne_zero _)]
    · rw [if_neg same, if_neg same, Nat.add_zero]
  total := by
    rw [List.length_append, ← counts_of.total]
    exact total_countCategory counts definition

/-- All types of a registry are counted. -/
theorem countsOf_categoryCounts (registry : Registry) :
    CountsOf registry.categoryCounts registry.definitions := by
  unfold Registry.categoryCounts
  induction registry.definitions using List.reverseRecOn with
  | nil => exact ⟨fun _ => rfl, rfl⟩
  | append_singleton definitions definition ih =>
    rw [List.foldl_concat]
    exact ih.concat definition

section Categories

variable (registry : Registry)

/-- The categories that are listed are those of the types, each once. -/
theorem categories_perm :
    registry.categories.Perm (registry.definitions.map Definition.category).eraseDups :=
  List.mergeSort_perm _ _

/-- A category is listed if some type has it. -/
theorem mem_categories_iff {category : Text} :
    category ∈ registry.categories ↔ ∃ definition ∈ registry.definitions, definition.category = category := by
  rw [(categories_perm registry).mem_iff, List.mem_eraseDups, List.mem_map]

/-- The categories ascend, so none is listed twice. -/
theorem sorted_categories : registry.categories.Pairwise Text.IsBefore := by
  have distinct : registry.categories.Nodup := by
    rw [(categories_perm registry).nodup_iff]
    exact nodup_eraseDups _
  have ordered := List.pairwise_mergeSort atMost_trans atMost_total
    (registry.definitions.map Definition.category).eraseDups
  refine (ordered.and distinct).imp ?_
  rintro first second ⟨below, different⟩
  exact (atMost_iff.mp below).resolve_left different

end Categories

/-- The views of categories agree. -/
structure Registry.CountsCategories (registry : Registry) : Prop where
  /-- Counts are positive, and are those of types. -/
  positive : ∀ category count, registry.categoryCounts.get? category = some count →
    0 < count ∧ count = categorySize (registry.list none) category
  /-- Every type is counted once. -/
  total : registry.categoryCounts.total = registry.size
  /-- The categories that are counted are those that are listed. -/
  keys : ∀ category, category ∈ registry.categoryCounts.keys ↔ category ∈ registry.categories
  /-- They are the categories of types. -/
  listed : ∀ category, category ∈ registry.categories ↔
    ∃ definition ∈ registry.list none, definition.category = category
  /-- No category is listed twice, and they ascend. -/
  sorted : registry.categories.Pairwise Text.IsBefore

/-- **Categories are listed and counted alike**, in every registry. -/
theorem countsCategories (registry : Registry) : registry.CountsCategories := by
  obtain ⟨counted, total⟩ := countsOf_categoryCounts registry
  refine ⟨fun category count found => ?_, total, fun category => ?_, fun _ => mem_categories_iff registry,
    sorted_categories registry⟩
  · rw [counted] at found
    split_ifs at found with absent
    cases found
    exact ⟨Nat.pos_of_ne_zero absent, rfl⟩
  · have present : category ∈ registry.categoryCounts.keys ↔
        categorySize registry.definitions category ≠ 0 := by
      rw [← not_iff_not, ← OrderedMap.get?_eq_none_iff, counted]
      split_ifs with absent <;> simp [absent]
    rw [present, mem_categories_iff, ← Nat.pos_iff_ne_zero, categorySize, List.countP_pos_iff]
    simp only [decide_eq_true_iff]

end BlockPage
