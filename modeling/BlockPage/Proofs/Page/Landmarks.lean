/-
**The advice on landmarks is exact.**

A page without findings begins with its navigation and ends with its only footer. What stands between them
makes no difference. The advice looks at all blocks, the summary of a resolved page only at those of registered
types; where both landmarks are registered they agree on what is missing.

* `landmarkWarnings_eq_nil_iff`, `landmarkWarnings_insert`: the findings about types.
* `IsWellPlaced`, `adviseOn_blocks`: what the advice asks of checked blocks, and that it is given.
* `summary_of_resolve`: the summary of a resolved page, over any registry.
* `AgreesOnMissing`: advice and summary miss the same landmarks.
* `adviseOn_exact`: all of it.
-/

import BlockPage.Page.Resolution
import BlockPage.Proofs.Page.Resolution
import BlockPage.Proofs.Value.Entries
import Mathlib.Data.List.Basic

namespace BlockPage

/-! ### Types -/

section Types

variable {navigation footer : Text} {typeIds : List Text}

theorem noFooter_mem_iff : .noFooter ∈ landmarkWarnings navigation footer typeIds ↔ footer ∉ typeIds := by
  simp [landmarkWarnings]

theorem noNavigation_mem_iff :
    .noNavigation ∈ landmarkWarnings navigation footer typeIds ↔ navigation ∉ typeIds := by
  simp [landmarkWarnings]

/-- Each finding has its own wording. -/
theorem message_mem_iff {warning : LandmarkWarning} {warnings : List LandmarkWarning} :
    warning.message ∈ warnings.map LandmarkWarning.message ↔ warning ∈ warnings := by
  have wordings : ∀ first second : LandmarkWarning, first.message = second.message → first = second := by
    intro first second
    cases first <;> cases second <;> decide
  exact List.mem_map_of_injective fun first second => wordings first second

/-- The first occurrence of a type is the last place just when none stands before that. -/
theorem idxOf_last_iff {typeId : Text} : typeId ∈ typeIds ∧ typeIds.idxOf typeId + 1 = typeIds.length ↔
    ∃ front, typeIds = front ++ [typeId] ∧ typeId ∉ front := by
  constructor
  · rintro ⟨inside, last⟩
    obtain ⟨front, behind, rfl, fresh⟩ := List.eq_append_cons_of_mem inside
    rw [List.idxOf_append_of_notMem fresh, List.idxOf_cons_self, List.length_append, List.length_cons] at last
    obtain rfl : behind = [] := List.length_eq_zero_iff.mp (by omega)
    exact ⟨front, rfl, fresh⟩
  · rintro ⟨front, rfl, fresh⟩
    rw [List.idxOf_append_of_notMem fresh, List.idxOf_cons_self, List.length_append]
    exact ⟨List.mem_append_right front (.head _), rfl⟩

/-- There are no findings just where the navigation is first and the only footer is last. -/
theorem landmarkWarnings_eq_nil_iff : landmarkWarnings navigation footer typeIds = [] ↔
    typeIds.head? = some navigation ∧ ∃ front, typeIds = front ++ [footer] ∧ footer ∉ front := by
  have first : navigation ∈ typeIds ∧ typeIds.idxOf navigation = 0 ↔ typeIds.head? = some navigation := by
    cases typeIds with
    | nil => simp
    | cons typeId rest => by_cases same : typeId = navigation <;> simp [same]
  rw [← first, ← idxOf_last_iff]
  by_cases hasFooter : footer ∈ typeIds <;> by_cases hasNavigation : navigation ∈ typeIds <;>
    simp [landmarkWarnings, hasFooter, hasNavigation, and_comm]

/-- A type that is inserted moves the first occurrences behind it by one place. -/
theorem idxOf_insert {front behind : List Text} {typeId other : Text} (different : other ≠ typeId) :
    (front ++ other :: behind).idxOf typeId =
      (front ++ behind).idxOf typeId + if typeId ∈ front then 0 else 1 := by
  by_cases before : typeId ∈ front
  · rw [List.idxOf_append_of_mem before, List.idxOf_append_of_mem before, if_pos before, Nat.add_zero]
  · rw [List.idxOf_append_of_notMem before, List.idxOf_append_of_notMem before, if_neg before,
      List.idxOf_cons_ne _ different, Nat.add_succ]

/-- Another type between the first and the last one changes no finding. -/
theorem landmarkWarnings_insert {front behind : List Text} {typeId : Text} (start : front ≠ [])
    (stop : behind ≠ []) (noNavigation : typeId ≠ navigation) (noFooter : typeId ≠ footer) :
    landmarkWarnings navigation footer (front ++ typeId :: behind) =
      landmarkWarnings navigation footer (front ++ behind) := by
  have before := List.length_pos_iff.mpr start
  have after := List.length_pos_iff.mpr stop
  have listed : ∀ landmark, typeId ≠ landmark →
      (front ++ typeId :: behind).contains landmark = (front ++ behind).contains landmark := by
    intro landmark different
    simp [Ne.symm different]
  -- what begins in the front begins before the last place, and all else is moved together with it
  have last : (front ++ typeId :: behind).idxOf footer + 1 = (front ++ typeId :: behind).length ↔
      (front ++ behind).idxOf footer + 1 = (front ++ behind).length := by
    rw [idxOf_insert noFooter, List.length_append, List.length_cons, List.length_append]
    split_ifs with inFront
    · rw [List.idxOf_append_of_mem inFront]
      have place := List.idxOf_lt_length_of_mem inFront
      omega
    · omega
  have first : (front ++ typeId :: behind).idxOf navigation = 0 ↔ (front ++ behind).idxOf navigation = 0 := by
    rw [idxOf_insert noNavigation]
    split_ifs with inFront
    · exact Iff.rfl
    · rw [List.idxOf_append_of_notMem inFront]
      exact iff_of_false id (by omega)
  rw [landmarkWarnings, landmarkWarnings, listed footer noFooter, listed navigation noNavigation,
    bne, bne, bne, bne, beq_eq_decide, beq_eq_decide, beq_eq_decide, beq_eq_decide,
    decide_eq_decide.mpr last, decide_eq_decide.mpr first]

end Types

/-! ### Blocks -/

/-- The page begins with its navigation and ends with its only footer. -/
structure IsWellPlaced (navigation footer : Text) (blocks : List Block) : Prop where
  first : ∃ block rest, blocks = block :: rest ∧ block.typeId = navigation
  last : ∃ front block, blocks = front ++ [block] ∧ block.typeId = footer ∧
    ∀ earlier ∈ front, earlier.typeId ≠ footer

section Blocks

variable {navigation footer : Text} {blocks : List Block}

/-- A page is well placed when navigation comes first and the footer comes last and once. -/
theorem isWellPlaced_iff : IsWellPlaced navigation footer blocks ↔
    (blocks.map Block.typeId).head? = some navigation ∧
      ∃ front, blocks.map Block.typeId = front ++ [footer] ∧ footer ∉ front := by
  constructor
  · rintro ⟨⟨block, rest, rfl, rfl⟩, front, last, split, rfl, others⟩
    refine ⟨rfl, front.map Block.typeId, by rw [split, List.map_append]; rfl, ?_⟩
    rw [List.mem_map]
    rintro ⟨earlier, inside, same⟩
    exact others earlier inside same
  · rintro ⟨starts, types, split, fresh⟩
    obtain ⟨block, here, typed⟩ : ∃ block, blocks.head? = some block ∧ block.typeId = navigation := by
      rwa [List.head?_map, Option.map_eq_some_iff] at starts
    obtain ⟨rest, rfl⟩ := List.head?_eq_some_iff.mp here
    obtain ⟨front, last, whole, rfl, single⟩ := List.map_eq_append_iff.mp split
    obtain ⟨footerBlock, rfl, kind⟩ := List.map_eq_singleton_iff.mp single
    refine ⟨⟨block, rest, rfl, typed⟩, front, footerBlock, whole, kind, fun earlier inside same => ?_⟩
    exact fresh (List.mem_map.mpr ⟨earlier, inside, same⟩)

/-- Types that are texts are compared as such. -/
theorem landmarkWarnings_texts (navigation footer : Text) (typeIds : List Text) :
    landmarkWarnings (.text navigation) (.text footer) (typeIds.map Value.text) =
      landmarkWarnings navigation footer typeIds := by
  have same : ∀ first second : Text, (Value.text first == Value.text second) = (first == second) :=
    fun first second => (equal_text first second).trans (beq_eq_decide first second).symm
  have listed : ∀ typeId : Text,
      (typeIds.map Value.text).contains (Value.text typeId) = typeIds.contains typeId := by
    intro typeId
    rw [List.contains_eq_any_beq, List.contains_eq_any_beq, List.any_map]
    exact congrArg typeIds.any (funext fun other => same typeId other)
  have place : ∀ typeId : Text, (typeIds.map Value.text).idxOf (Value.text typeId) = typeIds.idxOf typeId := by
    intro typeId
    rw [List.idxOf, List.idxOf, List.findIdx_map]
    exact congrArg (typeIds.findIdx ·) (funext fun other => same other typeId)
  simp only [landmarkWarnings, listed, place, List.length_map]

/-- Checked blocks all have a type. -/
theorem mapM_typeId_checked (blocks : List Block) : (blocks.map Placement.checked).mapM Placement.typeId =
    .ok ((blocks.map Block.typeId).map Value.text) := by
  rw [List.map_map]
  refine mapM_map_eq_ok (fun block => ?_) blocks
  rfl

/-- Checked blocks are always advised on. -/
theorem adviseOn_blocks (navigation footer : Text) (blocks : List Block) :
    adviseOn (.text navigation) (.text footer) (blocks.map .checked) =
      .ok (landmarkWarnings navigation footer (blocks.map Block.typeId)) := by
  rw [adviseOn, mapM_typeId_checked]
  exact congrArg Except.ok (landmarkWarnings_texts navigation footer _)

end Blocks

/-! ### Resolved pages -/

/-- What the summary of a resolved page says of its types, whatever the registry is. -/
theorem summary_of_resolve {registry : Registry} {navigation footer : Text} {blocks : List Block}
    {tree : RenderTree}
    (resolved : resolve registry (.text navigation) (.text footer) (blocks.map .checked) = .ok tree) :
    (tree.summary.hasNavigation = true ↔
        navigation ∈ (blocks.map Block.typeId).filter registry.contains) ∧
      (tree.summary.hasFooter = true ↔ footer ∈ (blocks.map Block.typeId).filter registry.contains) := by
  obtain ⟨parts, contributed, resolved⟩ := bind_eq_ok_iff.mp resolved
  obtain ⟨base, _, resolved⟩ := bind_eq_ok_iff.mp resolved
  obtain ⟨_, rfl⟩ := contributions_eq_ok_iff.mp contributed
  cases resolved
  rw [← typeIds_contributionsFrom registry blocks 0 []]
  exact ⟨any_isText_iff _ navigation, any_isText_iff _ footer⟩

/-- The advice misses a landmark just when the summary of the resolved page does. -/
structure AgreesOnMissing (warnings : List LandmarkWarning) (tree : RenderTree) : Prop where
  navigation : Text.ofString "Consider adding a navbar block." ∈ warnings.map LandmarkWarning.message ↔
    tree.summary.hasNavigation = false
  footer : Text.ofString "Consider adding a footer block." ∈ warnings.map LandmarkWarning.message ↔
    tree.summary.hasFooter = false

/-- Advice and the resolved page agree on which of the two is missing, when both are registered. -/
theorem agreesOnMissing_of_resolve {registry : Registry} {navigation footer : Text} {blocks : List Block}
    {tree : RenderTree} (hasNavigation : registry.contains navigation = true)
    (hasFooter : registry.contains footer = true)
    (resolved : resolve registry (.text navigation) (.text footer) (blocks.map .checked) = .ok tree) :
    AgreesOnMissing (landmarkWarnings navigation footer (blocks.map Block.typeId)) tree := by
  obtain ⟨navigation_iff, footer_iff⟩ := summary_of_resolve resolved
  rw [List.mem_filter, and_iff_left hasNavigation] at navigation_iff
  rw [List.mem_filter, and_iff_left hasFooter] at footer_iff
  constructor
  · rw [← Bool.not_eq_true, navigation_iff, ← noNavigation_mem_iff, ← message_mem_iff]
    rfl
  · rw [← Bool.not_eq_true, footer_iff, ← noFooter_mem_iff, ← message_mem_iff]
    rfl

/-- **The advice on landmarks is exact.** Checked blocks are always advised on. There are no findings just where
the page begins with its navigation and ends with its only footer, and another block between the first and the
last one changes none. Over a registry that has both landmarks, the advice and the resolved page miss the same
ones, and the page is resolved wherever all failures have a text. -/
theorem adviseOn_exact (navigation footer : Text) (blocks : List Block) :
    ∃ warnings, adviseOn (.text navigation) (.text footer) (blocks.map .checked) = .ok warnings ∧
      (warnings = [] ↔ IsWellPlaced navigation footer blocks) ∧
      (∀ front block behind, blocks = front ++ behind → front ≠ [] → behind ≠ [] →
        block.typeId ≠ navigation → block.typeId ≠ footer →
        adviseOn (.text navigation) (.text footer) ((front ++ block :: behind).map .checked) =
          .ok warnings) ∧
      ∀ registry : Registry, registry.contains navigation = true → registry.contains footer = true →
        (∀ tree, resolve registry (.text navigation) (.text footer) (blocks.map .checked) = .ok tree →
          AgreesOnMissing warnings tree) ∧
        ∀ base, registry.baseStyle = .text base → registry.FailuresSpeak →
          ∃ tree, resolve registry (.text navigation) (.text footer) (blocks.map .checked) = .ok tree := by
  refine ⟨_, adviseOn_blocks navigation footer blocks, ?_, ?_, ?_⟩
  · rw [landmarkWarnings_eq_nil_iff, isWellPlaced_iff]
  · rintro front block behind rfl start stop noNavigation noFooter
    rw [adviseOn_blocks, List.map_append, List.map_append, List.map_cons,
      landmarkWarnings_insert (by simpa using start) (by simpa using stop) noNavigation noFooter]
  · intro registry hasNavigation hasFooter
    refine ⟨fun tree => agreesOnMissing_of_resolve hasNavigation hasFooter, fun base style speaks => ?_⟩
    exact ⟨_, resolve_checked style speaks _ _ blocks⟩

/-- A block of a type that is not registered and two of the navigation; there is no footer. -/
def strayBlocks : List Block := [{ typeId := "none" }, { typeId := "hero" }, { typeId := "hero" }]

theorem adviseOn_exact_stray :
    mixedRegistry.contains "hero" = true ∧ mixedRegistry.contains "broken" = true ∧
      ∃ warnings tree, adviseOn (.text "hero") (.text "broken") (strayBlocks.map .checked) = .ok warnings ∧
        ¬ IsWellPlaced "hero" "broken" strayBlocks ∧ warnings ≠ [] ∧
        adviseOn (.text "hero") (.text "broken")
          ((strayBlocks.take 1 ++ { typeId := "note" } :: strayBlocks.drop 1).map .checked) = .ok warnings ∧
        resolve mixedRegistry (.text "hero") (.text "broken") (strayBlocks.map .checked) = .ok tree ∧
        AgreesOnMissing warnings tree := by
  have hero : mixedRegistry.contains "hero" = true := by decide +kernel
  have broken : mixedRegistry.contains "broken" = true := by decide +kernel
  have unplaced : ¬ IsWellPlaced "hero" "broken" strayBlocks := by
    rintro ⟨⟨block, rest, split, same⟩, _⟩
    cases split
    exact absurd same (by decide)
  obtain ⟨warnings, advised, exact, between, agrees⟩ := adviseOn_exact "hero" "broken" strayBlocks
  obtain ⟨agrees, resolves⟩ := agrees mixedRegistry hero broken
  obtain ⟨tree, resolved⟩ := resolves _ rfl mixedRegistry_failuresSpeak
  refine ⟨hero, broken, warnings, tree, advised, unplaced, fun silent => unplaced (exact.mp silent), ?_, resolved,
    agrees tree resolved⟩
  exact between _ _ _ rfl (by decide) (by decide) (by decide) (by decide)

end BlockPage
