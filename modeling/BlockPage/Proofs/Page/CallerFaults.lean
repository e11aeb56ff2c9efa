/-
**What callers are blamed for.**

The blocks, the theme and the settings of a page are handed in loosely. What is wrong with them should be
refused as a fault of the caller. It is, as long as everything that is to be read as a map can be.

* `BlamesCaller`: a refusal, if there is one, is that of a precondition; `blamesCaller_bind`.
* `Intake.HasRaggedBlock`, `blamesCaller_snapshot`: the blocks; they are refused otherwise only for a block
  whose configuration is a ragged sequence in place of a map.
* `blamesCaller_coerceTheme`, `blamesCaller_coercePageSettings`: the theme and the settings; they are refused
  otherwise just where they cannot be read as maps.
* `pageInput_blamesCaller`: all of it, as generating and previewing a page take it.
-/

import BlockPage.Page.Generation
import BlockPage.Proofs.Value.Conversion
import BlockPage.Proofs.Value.Entries

namespace BlockPage

/-- Whatever is refused is refused as a fault of the caller. -/
def BlamesCaller {α : Type} (result : Except Problem α) : Prop :=
  ∀ problem, result = .error problem → problem.kind = .precondition

section BlamesCaller

variable {α β : Type} {problem : Problem}

theorem blamesCaller_ok (value : α) : BlamesCaller (.ok value) := fun _ refused => nomatch refused

/-- A failure blames the caller when it is a failed precondition. -/
theorem blamesCaller_error : BlamesCaller (.error problem : Except Problem α) ↔
    problem.kind = .precondition :=
  ⟨fun blames => blames problem rfl, fun kind _ refused => Except.error.inj refused ▸ kind⟩

/-- Two steps blame the caller when the first does, and the second wherever it is reached. -/
theorem blamesCaller_bind {first : Except Problem α} {second : α → Except Problem β} :
    BlamesCaller (first >>= second) ↔
      BlamesCaller first ∧ ∀ value, first = .ok value → BlamesCaller (second value) := by
  cases first with
  | error problem =>
    refine ⟨fun blames => ⟨blamesCaller_error.mpr (blamesCaller_error.mp blames), ?_⟩, ?_⟩
    · exact fun _ passed => nomatch passed
    · exact fun blames => blamesCaller_error.mpr (blamesCaller_error.mp blames.1)
  | ok value =>
    refine ⟨fun blames => ⟨blamesCaller_ok value, ?_⟩, fun blames => blames.2 value rfl⟩
    rintro _ ⟨⟩
    exact blames

end BlamesCaller

namespace Intake

/-! ### Blocks -/

/-- The value is a map with a ragged sequence as its configuration. -/
def HasRaggedConfig (value : Value) : Prop :=
  ∃ entries config, value = .map entries ∧ Entries.get? entries "config" = some config ∧ config.IsRagged

/-- The first block of a sequence that is refused is one with a ragged configuration. -/
def HasRaggedBlock (value : Value) : Prop :=
  ∃ before item behind, sequence? value = some (before ++ item :: behind) ∧
    (∀ other ∈ before, ∃ placement, coerceBlock other = .ok placement) ∧ HasRaggedConfig item

/-- The configuration stays where it is. -/
theorem config_nameType (entries : Entries) :
    (nameType entries).get? "config" = Entries.get? entries "config" := by
  unfold nameType
  split
  · rw [Entries.get?_insert, if_neg (by decide), Entries.get?_erase _ (by decide)]
  · rfl

theorem isTruthy_of_isRagged {value : Value} (ragged : value.IsRagged) : value.isTruthy = true := by
  obtain ⟨before, item, behind, sequence, _⟩ := ragged
  have listed := sequence.items
  cases value with
  | scalar scalar =>
    cases scalar with
    | text text =>
      cases text with
      | nil => cases before <;> cases listed
      | cons first rest => rfl
    | _ => cases listed
  | bytes content =>
    cases content with
    | nil => cases before <;> cases listed
    | cons first rest => rfl
  | list items =>
    cases items with
    | nil => cases before <;> cases listed
    | cons first rest => rfl
  | map entries => exact absurd rfl (sequence.noMap entries)
  | absent => cases listed
  | _ => rfl

/-- The configuration that a described block is given. -/
def givenConfig (entries : Entries) : Value :=
  let given := (entries.get? "config").getD .absent
  if given.isTruthy then given else .map []

/-- The configuration of a block is ragged only when it was given. -/
theorem isRagged_givenConfig {entries : Entries} : (givenConfig entries).IsRagged ↔
    ∃ config, entries.get? "config" = some config ∧ config.IsRagged := by
  unfold givenConfig
  cases found : entries.get? "config" with
  | none =>
    refine iff_of_false (fun ragged => ragged.noMap [] rfl) ?_
    rintro ⟨config, ⟨⟩, _⟩
  | some config =>
    dsimp only [Option.getD_some]
    by_cases truthy : config.isTruthy = true
    · rw [if_pos truthy]
      exact ⟨fun ragged => ⟨config, rfl, ragged⟩,
        fun ⟨_, same, ragged⟩ => Option.some.inj same ▸ ragged⟩
    · rw [if_neg truthy]
      refine iff_of_false (fun ragged => ragged.noMap [] rfl) ?_
      rintro ⟨_, ⟨⟩, ragged⟩
      exact truthy (isTruthy_of_isRagged ragged)

/-- A block that is given as a map converts its configuration first, and then reads its fields. -/
theorem coerceBlock_map (entries : Entries) : ∃ read : Entries → Checked Block,
    coerceBlock (.map entries) = ((givenConfig entries).toEntries >>= fun config =>
      (read config).toExcept >>= fun block => .ok (.checked block)) := by
  refine ⟨fun config => readBlock (blockEntries (((nameType entries).get? "type_id").getD .absent)
    (.map config) (((nameType entries).get? "instance_id").getD .absent)), ?_⟩
  rw [givenConfig, ← config_nameType]
  rfl

/-- A ragged configuration is what is refused of its block. -/
theorem HasRaggedConfig.refused {value : Value} (ragged : HasRaggedConfig value) :
    ∃ problem, coerceBlock value = .error problem ∧ problem.kind = .badValue := by
  obtain ⟨entries, config, rfl, found, ragged⟩ := ragged
  obtain ⟨read, coerced⟩ := coerceBlock_map entries
  obtain ⟨problem, refused, kind⟩ := (isRagged_givenConfig.mpr ⟨config, found, ragged⟩).toEntries
  refine ⟨problem, ?_, kind⟩
  rw [coerced, refused]
  rfl

/-- A block that is refused is described badly, unless its configuration is ragged. -/
theorem kind_coerceBlock {value : Value} {problem : Problem} (refused : coerceBlock value = .error problem)
    (even : ¬ HasRaggedConfig value) : problem.kind = .typeMismatch ∨ problem.kind = .invalid := by
  cases value with
  | block placed => cases refused
  | looseBlock typeId config instanceId => cases refused
  | map entries =>
    obtain ⟨read, coerced⟩ := coerceBlock_map entries
    rw [coerced] at refused
    obtain unread | ⟨config, _, later⟩ := bind_eq_error_iff.mp refused
    · obtain ⟨ragged, _⟩ | ⟨_, kind⟩ := Value.kind_toEntries unread
      · obtain ⟨config, found, ragged⟩ := isRagged_givenConfig.mp ragged
        exact absurd ⟨entries, config, rfl, found, ragged⟩ even
      · exact .inl kind
    · obtain wrong | ⟨_, _, ⟨⟩⟩ := bind_eq_error_iff.mp later
      cases checked : read config with
      | fits block => rw [checked] at wrong; cases wrong
      | wrong issues => rw [checked] at wrong; cases wrong; exact .inr rfl
  | _ => cases refused; exact .inl rfl

/-- Only a value that is badly described becomes the fault of the caller. -/
theorem kind_refuseBlocks {problem : Problem} : (refuseBlocks problem).kind = .precondition ↔
    problem.kind = .typeMismatch ∨ problem.kind = .invalid ∨ problem.kind = .precondition := by
  rw [refuseBlocks]
  cases kind : problem.kind <;> simp [kind, Problem.within]

/-- The blocks of a sequence are taken one by one. -/
theorem snapshot_of_sequence {value : Value} {items : List Value} (listed : sequence? value = some items) :
    snapshot value = (items.mapM coerceBlock).mapError refuseBlocks := by
  cases value <;> cases listed <;> rfl

/-- What is no sequence of blocks is the fault of the caller. -/
theorem snapshot_of_no_sequence {value : Value} (listed : sequence? value = none) :
    ∃ problem, snapshot value = .error problem ∧ problem.kind = .precondition := by
  cases value with
  | scalar scalar => cases scalar <;> exact ⟨_, rfl, rfl⟩
  | bytes content => exact ⟨_, rfl, rfl⟩
  | map entries => exact ⟨_, rfl, rfl⟩
  | absent => exact ⟨_, rfl, rfl⟩
  | _ => cases listed

/-- **Refusing blocks blames the caller unless one has a ragged configuration.** -/
theorem blamesCaller_snapshot {value : Value} :
    BlamesCaller (snapshot value) ↔ ¬ HasRaggedBlock value := by
  cases listed : sequence? value with
  | none =>
    obtain ⟨problem, refused, kind⟩ := snapshot_of_no_sequence listed
    rw [refused, blamesCaller_error]
    refine iff_of_true kind ?_
    rintro ⟨before, item, behind, same, _⟩
    rw [listed] at same
    cases same
  | some items =>
    rw [snapshot_of_sequence listed]
    constructor
    · rintro blames ⟨before, item, behind, same, passed, ragged⟩
      obtain rfl := Option.some.inj (listed.symm.trans same)
      obtain ⟨problem, here, kind⟩ := ragged.refused
      have refused := mapM_eq_error_iff.mpr ⟨before, item, behind, rfl, passed, here⟩
      rw [refused] at blames
      have other := kind_refuseBlocks.mp (blames _ rfl)
      rw [kind] at other
      simp at other
    · intro even
      cases traversed : items.mapM coerceBlock with
      | ok placements => exact blamesCaller_ok placements
      | error problem =>
        obtain ⟨before, item, behind, rfl, passed, here⟩ := mapM_eq_error_iff.mp traversed
        refine blamesCaller_error.mpr (kind_refuseBlocks.mpr ?_)
        obtain kind | kind := kind_coerceBlock here fun ragged =>
          even ⟨before, item, behind, listed, passed, ragged⟩
        · exact .inl kind
        · exact .inr (.inl kind)

/-! ### Themes and settings -/

/-- Fields that are read from a map are refused as a fault of the caller just where there is a map. -/
theorem blamesCaller_fields {α : Type} {value : Value} (read : Entries → Checked α) (start : Text) :
    BlamesCaller (value.toEntries >>= fun entries =>
      (read entries).toExcept.mapError (·.within .precondition start)) ↔ value.IsMapLike := by
  rw [blamesCaller_bind, ← Value.exists_toEntries_iff]
  cases read' : value.toEntries with
  | error problem =>
    refine iff_of_false (fun blames => ?_) (not_exists_error problem)
    have kind := blamesCaller_error.mp blames.1
    obtain ⟨_, other⟩ | ⟨_, other⟩ := Value.kind_toEntries read' <;> rw [other] at kind <;> cases kind
  | ok entries =>
    refine iff_of_true ⟨blamesCaller_ok entries, ?_⟩ ⟨entries, rfl⟩
    rintro _ ⟨⟩
    cases read entries with
    | fits value => exact blamesCaller_ok value
    | wrong issues => exact blamesCaller_error.mpr rfl

/-- The value can be given as a theme. -/
def IsThemeInput (value : Value) : Prop :=
  value = .absent ∨ (∃ look, value = .theme look) ∨ value.IsMapLike

/-- The value can be given as the settings of a page. -/
def IsPageInput (value : Value) : Prop :=
  value = .absent ∨ (∃ page extras, value = .pageSettings page extras) ∨ value.IsMapLike

/-- Refusing a theme blames the caller when none is given, or a theme, or what converts to a map. -/
theorem blamesCaller_coerceTheme {value : Value} :
    BlamesCaller (coerceTheme value) ↔ IsThemeInput value := by
  unfold IsThemeInput
  cases value with
  | absent => exact iff_of_true (blamesCaller_ok _) (.inl rfl)
  | theme look => exact iff_of_true (blamesCaller_ok _) (.inr (.inl ⟨look, rfl⟩))
  | _ => exact (blamesCaller_fields readTheme "Invalid theme: ").trans (by simp)

theorem blamesCaller_coercePageSettings {value : Value} :
    BlamesCaller (coercePageSettings value) ↔ IsPageInput value := by
  unfold IsPageInput
  cases value with
  | absent => exact iff_of_true (blamesCaller_ok _) (.inl rfl)
  | pageSettings page extras => exact iff_of_true (blamesCaller_ok _) (.inr (.inl ⟨page, extras, rfl⟩))
  | _ => exact (blamesCaller_fields readPageSettings "Invalid page settings: ").trans (by simp)

end Intake

/-! ### Pages -/

open Intake

/-- **What is wrong with the input of a page is the fault of the caller.** Blocks are refused in another way
only for a configuration that is a ragged sequence in place of a map, in the first block that is refused.
The theme and the settings are refused in another way just where they are given and cannot be read as maps.
They are looked at in this order, and what is refused of them is refused of the page. -/
theorem pageInput_blamesCaller (instances theme settings : Value) :
    (BlamesCaller (snapshot instances) ↔ ¬ HasRaggedBlock instances) ∧
    (BlamesCaller (coerceTheme theme) ↔ IsThemeInput theme) ∧
    (BlamesCaller (coercePageSettings settings) ↔ IsPageInput settings) ∧
    (BlamesCaller (Generator.pageInput instances theme settings) ↔
      ¬ HasRaggedBlock instances ∧ ∀ placements, snapshot instances = .ok placements →
        IsThemeInput theme ∧ ∀ look, coerceTheme theme = .ok look → IsPageInput settings) ∧
    ∀ (generator : Generator) (problem : Problem),
      (Generator.pageInput instances theme settings = .error problem →
        generator.generate instances theme settings = .error problem ∧
          generator.preview instances theme settings = .error problem) ∧
      (snapshot instances = .error problem →
        generator.advise instances = .error problem ∧ generator.resolve instances = .error problem) := by
  refine ⟨blamesCaller_snapshot, blamesCaller_coerceTheme, blamesCaller_coercePageSettings, ?_,
    fun generator problem => ⟨fun refused => ?_, fun refused => ?_⟩⟩
  · rw [Generator.pageInput, blamesCaller_bind, blamesCaller_snapshot]
    refine and_congr_right fun _ => forall₂_congr fun placements _ => ?_
    rw [blamesCaller_bind, blamesCaller_coerceTheme]
    refine and_congr_right fun _ => forall₂_congr fun look _ => ?_
    rw [blamesCaller_bind, blamesCaller_coercePageSettings]
    exact and_iff_left fun page _ => blamesCaller_ok _
  · rw [Generator.generate, Generator.preview, refused]
    exact ⟨rfl, rfl⟩
  · rw [Generator.advise, Generator.resolve, refused]
    exact ⟨rfl, rfl⟩

/-- A number in place of a block. -/
theorem pageInput_blamesCaller_number :
    ∃ problem, snapshot (.list [.integer 5]) = .error problem ∧ problem.kind = .precondition ∧
      ¬ HasRaggedBlock (.list [.integer 5]) ∧
      Generator.generate ⟨Registry.standard, {}⟩ (.list [.integer 5]) .absent .absent = .error problem := by
  obtain ⟨problem, refused, kind⟩ : ∃ problem,
      snapshot (.list [.integer 5]) = .error problem ∧ problem.kind = .precondition := ⟨_, rfl, rfl⟩
  have input : Generator.pageInput (.list [.integer 5]) .absent .absent = .error problem := by
    rw [Generator.pageInput, refused]
    rfl
  obtain ⟨blocks, _, _, _, answers⟩ := pageInput_blamesCaller (.list [.integer 5]) .absent .absent
  refine ⟨problem, refused, kind, blocks.mp ?_, ((answers ⟨Registry.standard, {}⟩ problem).1 input).1⟩
  rw [refused]
  exact blamesCaller_error.mpr kind

/-- A block whose configuration is a text, as a caller may describe it. -/
def textConfigured : Value :=
  .map (Entries.ofFields [("type_id", .text "hero"), ("config", .text "ab")])

/-- A number in place of a theme is not the fault of the caller, and neither is a text in place of a
configuration. -/
theorem pageInput_not_blamesCaller :
    ¬ BlamesCaller (Generator.generate ⟨Registry.standard, {}⟩ (.list []) (.integer 5) .absent) ∧
      ¬ BlamesCaller (Generator.pageInput (.list []) (.integer 5) .absent) ∧
      ¬ BlamesCaller (snapshot (.list [textConfigured])) := by
  have number : Generator.pageInput (.list []) (.integer 5) .absent = .error (Value.integer 5).notIterable :=
    rfl
  have ragged : (Value.text "ab").IsRagged :=
    ⟨[], .text "a", [.text "b"], ⟨fun _ => nofun, rfl, rfl⟩, List.forall_mem_nil _, [.text "a"], rfl,
      by decide⟩
  have found : (Entries.ofFields [("type_id", .text "hero"), ("config", .text "ab")]).get? "config" =
      some (.text "ab") := by
    rw [Entries.get?_ofFields]
    rfl
  refine ⟨?_, ?_, fun blames => blamesCaller_snapshot.mp blames ?_⟩
  · rw [Generator.generate, number]
    exact fun blames => nomatch blamesCaller_error.mp blames
  · rw [number]
    exact fun blames => nomatch blamesCaller_error.mp blames
  · exact ⟨[], textConfigured, [], rfl, List.forall_mem_nil _, _, _, rfl, found, ragged⟩

end BlockPage
