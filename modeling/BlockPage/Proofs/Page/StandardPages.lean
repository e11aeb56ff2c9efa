/-
**Pages over the standard library.**

A checked block of a standard type gives the markup that is drawn of it, or none where one of its values
cannot be shown. Style and script are fixed texts.

* `drawingOf?`, `lookup?_standard`: a type of the registry is one that is drawn.
* `pictures`: the markup of a block; `html_standard`: the fragments of a page are the pictures of its blocks.
* `failuresSpeak_standard`, `generate_blocks`, `preview_blocks`: a page of checked blocks is always generated,
  in one way.
-/

import BlockPage.Page.Generation
import BlockPage.Proofs.Layout.RoundTrip
import BlockPage.Proofs.Library.Contents
import BlockPage.Proofs.Page.Landmarks

namespace BlockPage

open Library

/-! ### Standard types -/

/-- How blocks of a type are drawn. -/
def drawingOf? (typeId : Text) : Option Drawing :=
  drawings.find? fun drawing => drawing.definition.typeId = typeId

theorem definitions_standard : Registry.standard.definitions = drawings.map Drawing.definition := rfl

theorem lookup?_standard (typeId : Text) :
    Registry.standard.lookup? typeId = (drawingOf? typeId).map Drawing.definition := by
  rw [Registry.lookup?, definitions_standard, List.find?_map]
  rfl

/-- A drawing that is found is one of the library, and all of these are sound. -/
theorem isSound_of_drawingOf? {typeId : Text} {drawing : Drawing}
    (found : drawingOf? typeId = some drawing) : drawing.IsSound :=
  isSound_of_mem drawing (List.mem_of_find?_eq_some found)

/-! ### Outcomes -/

/-- The values that are drawn of a block: its own over the defaults of its type. -/
def Block.drawn (block : Block) (drawing : Drawing) : Entries :=
  effective drawing.definition.defaults (.ofConfig block.config)

/-- The markup of a block. There is none for types that are not registered, and where a value cannot be
shown. -/
def pictures (block : Block) : List Markup :=
  match drawingOf? block.typeId with
  | none => []
  | some drawing =>
    match drawing.draw (block.drawn drawing) with
    | .ok markup => [markup.trimmed]
    | .error _ => []

/-- A block has no picture, or the one that its drawing gives, trimmed. -/
theorem pictures_cases (block : Block) : pictures block = [] ∨
    ∃ drawing drawn, drawingOf? block.typeId = some drawing ∧
      drawing.draw (block.drawn drawing) = .ok drawn ∧ pictures block = [drawn.trimmed] := by
  cases found : drawingOf? block.typeId with
  | none => exact .inl (by rw [pictures, found])
  | some drawing =>
    cases same : drawing.draw (block.drawn drawing) with
    | error problem => exact .inl (by simp only [pictures, found, same])
    | ok drawn => exact .inr ⟨drawing, drawn, rfl, same, by simp only [pictures, found, same]⟩

section Outcomes

variable {block : Block} {drawing : Drawing}

/-- The markup of a block is what its drawing renders to, or the failure of the drawing. -/
theorem outcome_html (sound : drawing.IsSound) :
    block.outcome drawing.definition .html =
      .ofExcept ((drawing.draw (block.drawn drawing)).map Markup.render) :=
  sound.html (.ofConfig block.config)

/-- Style and script are texts. -/
theorem exists_render_text (sound : drawing.IsSound) {part : Part} (other : part ≠ .html)
    (entries : Entries) : ∃ text, drawing.definition.render part entries = .produced (.text text) := by
  obtain ⟨css, style⟩ := sound.css
  obtain ⟨js, script⟩ := sound.js
  cases part with
  | html => exact absurd rfl other
  | css => exact ⟨css, congrFun style entries⟩
  | js => exact ⟨js, congrFun script entries⟩

/-- The fragments of a block are its pictures as text: a picture is never blank. -/
theorem fragments_html (sound : drawing.IsSound) (found : drawingOf? block.typeId = some drawing) :
    (block.outcome drawing.definition .html).fragments = (pictures block).map Markup.render := by
  rw [outcome_html sound, pictures, found]
  dsimp only
  cases drawn : drawing.draw (block.drawn drawing) with
  | error problem => rfl
  | ok markup =>
    have element := sound.element _ _ drawn
    have left := Markup.strip_render_ne_nil element
    show [Text.strip markup.render].filter (· ≠ []) = [markup.trimmed.render]
    rw [List.filter_eq_self.mpr (by simpa using left), Markup.strip_render element]

end Outcomes

/-- A failure that is a refusal has a text. -/
theorem message?_ofProblem (problem : Problem) : (Failure.ofProblem problem).message?.isSome = true := by
  unfold Failure.message? Failure.ofProblem
  dsimp only
  split
  · simp [Value.text, Value.inspect, Value.inspectScalar]
  · rfl

theorem failuresSpeak_standard : Registry.standard.FailuresSpeak := by
  intro definition inside part entries failure failed
  rw [definitions_standard] at inside
  obtain ⟨drawing, listed, rfl⟩ := List.mem_map.mp inside
  have sound := isSound_of_mem drawing listed
  by_cases html : part = .html
  · rw [html, Definition.render, Definition.template, sound.html] at failed
    cases drawn : drawing.draw (effective drawing.definition.defaults entries) with
    | ok markup =>
      rw [drawn] at failed
      cases failed
    | error problem =>
      rw [drawn] at failed
      cases failed
      exact message?_ofProblem problem
  · obtain ⟨text, produced⟩ := exists_render_text sound html entries
    rw [produced] at failed
    cases failed

/-! ### Pages -/

/-- The markup of a page, picture by picture. -/
theorem html_standard (blocks : List Block) : ∀ (index : Nat) (seen : List Text),
    (contributionsFrom Registry.standard index seen blocks).flatMap Contribution.html =
      (blocks.flatMap pictures).map Markup.render := by
  induction blocks with
  | nil => exact fun _ _ => rfl
  | cons block rest ih =>
    intro index seen
    rw [contributionsFrom, List.flatMap_cons, ih, List.flatMap_cons, List.map_append,
      html_contribution, lookup?_standard]
    congr 1
    cases found : drawingOf? block.typeId with
    | none => rw [pictures, found]; rfl
    | some drawing => exact fragments_html (isSound_of_drawingOf? found) found

section Pages

variable (settings : Settings) (blocks : List Block) (theme : Theme) (page : PageSettings)
  (extras : List (Text × Value))

/-- The fragments of checked blocks. -/
def standardTree : RenderTree :=
  assemble (.text settings.navigationType) (.text settings.footerType) Library.baseStyle
    (contributionsFrom Registry.standard 0 [] blocks)

/-- Blocks that are given as such are taken as they are. -/
theorem snapshot_blocks : Intake.snapshot (.list (blocks.map .block)) = .ok (blocks.map .checked) := by
  show (Intake.coerceBlocks _).mapError _ = _
  rw [Intake.coerceBlocks_blocks]
  rfl

theorem pageInput_blocks :
    Generator.pageInput (.list (blocks.map .block)) (.theme theme) (.pageSettings page extras) =
      .ok (blocks.map .checked, theme, page) := by
  rw [Generator.pageInput, snapshot_blocks]
  rfl

/-- Resolving blocks with the standard types always succeeds, with the tree of the blocks. -/
theorem resolveBlocks_standard :
    Generator.resolveBlocks ⟨Registry.standard, settings⟩ (blocks.map .checked) =
      .ok (standardTree settings blocks) :=
  resolve_checked rfl failuresSpeak_standard _ _ blocks

theorem resolve_standard :
    Generator.resolve ⟨Registry.standard, settings⟩ (.list (blocks.map .block)) =
      .ok (standardTree settings blocks) := by
  rw [Generator.resolve, snapshot_blocks]
  exact resolveBlocks_standard settings blocks

theorem adviseBlocks_checked (registry : Registry) :
    Generator.adviseBlocks ⟨registry, settings⟩ (blocks.map .checked) =
      .ok (landmarkWarnings (.text settings.navigationType) (.text settings.footerType)
        (blocks.map fun block => Value.text block.typeId)) := by
  rw [Generator.adviseBlocks, adviseOn, mapM_typeId_checked, List.map_map]
  rfl

/-- A page of checked blocks in three files. -/
def standardPage : Generation where
  output := compileOutput settings.titles (standardTree settings blocks) theme page
  warnings := landmarkWarnings (.text settings.navigationType) (.text settings.footerType)
    (blocks.map fun block => Value.text block.typeId)
  diagnostics := (standardTree settings blocks).diagnostics

theorem generate_blocks :
    Generator.generate ⟨Registry.standard, settings⟩ (.list (blocks.map .block)) (.theme theme)
      (.pageSettings page extras) = .ok (standardPage settings blocks theme page) := by
  rw [Generator.generate, pageInput_blocks]
  dsimp only [bind, Except.bind]
  rw [Generator.generateBlocks, adviseBlocks_checked, resolveBlocks_standard]
  rfl

/-- **Every page of checked blocks is generated.** -/
theorem generate_standard :
    ∃ generation, Generator.generate ⟨Registry.standard, settings⟩ (.list (blocks.map .block))
        (.theme theme) (.pageSettings page extras) = .ok generation ∧
      generation.output = compileOutput settings.titles (standardTree settings blocks) theme page ∧
      generation.diagnostics = (standardTree settings blocks).diagnostics :=
  ⟨_, generate_blocks settings blocks theme page extras, rfl, rfl⟩

theorem preview_blocks :
    Generator.preview ⟨Registry.standard, settings⟩ (.list (blocks.map .block)) (.theme theme)
      (.pageSettings page extras) =
        .ok (compilePreview settings.titles (standardTree settings blocks) theme page) := by
  rw [Generator.preview, pageInput_blocks]
  dsimp only [bind, Except.bind]
  rw [Generator.previewBlocks, resolveBlocks_standard]
  rfl

end Pages

end BlockPage
