/-
**Lists that are gone through with a step that may fail.**

* `bind_eq_ok_iff`: a result of two steps is one of the second behind the first; `bind_eq_error_iff`: a
  fault is one of the first, or of the second behind it; `mapError_eq_ok_iff`: faults put in other words.
* `mapM_eq_ok_iff`: the results, one for each item; `mapM_eq_ok_iff_map`: the results of a step that has
  at most one; `mapM_map_eq_ok`: of one that always has one.
* `exists_of_mem_mapM`: every result is that of an item.
* `exists_mapM_eq_ok_iff`: there are results just when every item has one; `mapM_eq_error_iff`: otherwise
  the fault is that of the first item without one.
-/

import Mathlib.Data.List.Forall2

namespace BlockPage

variable {ι ρ ε : Type} {step : ι → Except ε ρ}

theorem not_exists_error (fault : ε) :
    ¬ ∃ result, (.error fault : Except ε ρ) = .ok result := by
  rintro ⟨_, ⟨⟩⟩

theorem bind_eq_ok_iff {α β : Type} {first : Except ε α} {second : α → Except ε β} {result : β} :
    (first >>= second) = .ok result ↔ ∃ value, first = .ok value ∧ second value = .ok result := by
  cases first with
  | error fault => exact iff_of_false (fun passed => nomatch passed) fun ⟨_, passed, _⟩ => nomatch passed
  | ok value =>
    refine ⟨fun passed => ⟨value, rfl, passed⟩, ?_⟩
    rintro ⟨_, ⟨⟩, passed⟩
    exact passed

theorem bind_eq_error_iff {α β : Type} {first : Except ε α} {second : α → Except ε β} {fault : ε} :
    (first >>= second) = .error fault ↔
      first = .error fault ∨ ∃ value, first = .ok value ∧ second value = .error fault := by
  cases first with
  | error other =>
    refine ⟨fun refused => .inl (congrArg Except.error (Except.error.inj refused)), ?_⟩
    rintro (⟨⟨⟩⟩ | ⟨_, ⟨⟩, _⟩)
    rfl
  | ok value =>
    refine ⟨fun refused => .inr ⟨value, rfl, refused⟩, ?_⟩
    rintro (⟨⟨⟩⟩ | ⟨_, ⟨⟩, refused⟩)
    exact refused

theorem exists_of_map_eq_ok {α β : Type} {first : Except ε α} {f : α → β} {result : β}
    (mapped : first.map f = .ok result) : ∃ value, first = .ok value ∧ f value = result := by
  cases first with
  | error fault => cases mapped
  | ok value => exact ⟨value, rfl, Except.ok.inj mapped⟩

theorem mapError_eq_ok_iff {α φ : Type} {first : Except ε α} {f : ε → φ} {result : α} :
    first.mapError f = .ok result ↔ first = .ok result := by
  cases first with
  | error fault => exact iff_of_false (fun passed => nomatch passed) fun passed => nomatch passed
  | ok value => exact ⟨fun passed => congrArg Except.ok (Except.ok.inj passed),
      fun passed => congrArg Except.ok (Except.ok.inj passed)⟩

/-- **A traversal succeeds with the results that the step has on each item.** -/
theorem mapM_eq_ok_iff {items : List ι} {results : List ρ} :
    items.mapM step = .ok results ↔
      List.Forall₂ (fun item result => step item = .ok result) items results := by
  induction items generalizing results with
  | nil =>
    rw [List.forall₂_nil_left_iff]
    constructor
    · rintro ⟨⟩
      rfl
    · rintro rfl
      rfl
  | cons first rest ih =>
    rw [List.forall₂_cons_left_iff, List.mapM_cons]
    constructor
    · intro passed
      cases here : step first with
      | error fault =>
        rw [here] at passed
        cases passed
      | ok result =>
        cases behind : rest.mapM step with
        | error fault =>
          rw [here, behind] at passed
          cases passed
        | ok others =>
          rw [here, behind] at passed
          cases passed
          exact ⟨result, others, rfl, ih.mp behind, rfl⟩
    · rintro ⟨result, others, here, behind, rfl⟩
      rw [here, ih.mpr behind]
      rfl

/-- Where a step succeeds with a fixed value under a condition, the traversal does under the condition on all
items. -/
theorem mapM_eq_ok_iff_map {f : ι → ρ} {passes : ι → Prop}
    (each : ∀ item result, step item = .ok result ↔ passes item ∧ f item = result) {items : List ι}
    {results : List ρ} :
    items.mapM step = .ok results ↔ (∀ item ∈ items, passes item) ∧ items.map f = results := by
  have same : List.Forall₂ (fun item result => f item = result) items results ↔ items.map f = results := by
    rw [← List.forall₂_map_left_iff, List.forall₂_eq_eq_eq]
  rw [mapM_eq_ok_iff, ← same, ← List.forall₂_and_left]
  simp only [each]

/-- Items that all come from others, with results that do, too. -/
theorem mapM_map_eq_ok {α : Type} {f : α → ι} {g : α → ρ} (each : ∀ item, step (f item) = .ok (g item))
    (items : List α) : (items.map f).mapM step = .ok (items.map g) := by
  rw [mapM_eq_ok_iff, List.forall₂_map_left_iff, List.forall₂_map_right_iff, List.forall₂_same]
  exact fun item _ => each item

/-- A traversal succeeds when every step does. -/
theorem exists_mapM_eq_ok_iff {items : List ι} :
    (∃ results, items.mapM step = .ok results) ↔ ∀ item ∈ items, ∃ result, step item = .ok result := by
  constructor
  · rintro ⟨results, passed⟩ item inside
    have each := mapM_eq_ok_iff.mp passed
    clear passed
    induction each with
    | nil => cases inside
    | cons here _ ih =>
      cases inside with
      | head => exact ⟨_, here⟩
      | tail _ inside => exact ih inside
  · intro each
    induction items with
    | nil => exact ⟨[], rfl⟩
    | cons first rest ih =>
      obtain ⟨result, here⟩ := each first (.head _)
      obtain ⟨others, behind⟩ := ih fun item inside => each item (.tail _ inside)
      refine ⟨result :: others, ?_⟩
      rw [List.mapM_cons, here, behind]
      rfl

/-- Every result is that of an item. -/
theorem exists_of_mem_mapM {items : List ι} {results : List ρ} (passed : items.mapM step = .ok results)
    {result : ρ} (inside : result ∈ results) : ∃ item ∈ items, step item = .ok result := by
  have each := mapM_eq_ok_iff.mp passed
  clear passed
  induction each with
  | nil => cases inside
  | cons here _ ih =>
    cases inside with
    | head => exact ⟨_, .head _, here⟩
    | tail _ inside =>
      obtain ⟨item, listed, there⟩ := ih inside
      exact ⟨item, .tail _ listed, there⟩

/-- A traversal fails where its first item without a result does. The items behind that one are not looked
at. -/
theorem mapM_eq_error_iff {items : List ι} {fault : ε} :
    items.mapM step = .error fault ↔ ∃ before item behind, items = before ++ item :: behind ∧
      (∀ other ∈ before, ∃ result, step other = .ok result) ∧ step item = .error fault := by
  induction items with
  | nil =>
    refine iff_of_false (fun refused => nomatch refused) ?_
    rintro ⟨before, item, behind, split, -⟩
    cases before <;> cases split
  | cons first rest ih =>
    rw [List.mapM_cons, bind_eq_error_iff]
    constructor
    · rintro (here | ⟨result, here, later⟩)
      · exact ⟨[], first, rest, rfl, List.forall_mem_nil _, here⟩
      · obtain refused | ⟨_, _, ⟨⟩⟩ := bind_eq_error_iff.mp later
        obtain ⟨before, item, behind, rfl, passed, fails⟩ := ih.mp refused
        exact ⟨first :: before, item, behind, rfl,
          List.forall_mem_cons.mpr ⟨⟨result, here⟩, passed⟩, fails⟩
    · rintro ⟨before, item, behind, split, passed, fails⟩
      cases before with
      | nil =>
        cases split
        exact .inl fails
      | cons other before =>
        cases split
        obtain ⟨⟨result, here⟩, passed⟩ := List.forall_mem_cons.mp passed
        refine .inr ⟨result, here, ?_⟩
        rw [ih.mpr ⟨before, item, behind, rfl, passed, fails⟩]
        rfl

end BlockPage
