/-
**What a source can say is rendered.**

The values of a compiled source can all be shown, since no integer that is read is too long for that. So
each block of a standard type gives one fragment, and the other blocks are reported. Nothing else is said of
the page, whatever its theme and its settings are.

* `Block.IsShown`, `isShown_of_compileSource`: blocks all of whose values can be shown.
* `Block.Renders`, `contribution_shown`: what such a block adds, its fragment or its report.
* `diagnostics_standard`, `forall₂_renders`: what is said of all blocks, and what they give.
* `generate_compiled`: a page of what any source is compiled to.
-/

import BlockPage.Proofs.Layout.Normalization
import BlockPage.Proofs.Page.StandardPages
import BlockPage.Proofs.Theme.Shades

namespace BlockPage

open Library

/-! ### Blocks that can be shown -/

/-- All values of the block can be shown. -/
def Block.IsShown (block : Block) : Prop := ∀ entry ∈ block.config.entries, ¬ entry.2.Unwritable

/-- The integers of a compiled block have few enough digits to be shown. -/
theorem isShown_of_compileSource {source limit : Value} {blocks : List Block}
    (compiled : Intake.compileSource source limit = .ok (.ok blocks)) :
    ∀ block ∈ blocks, block.IsShown := by
  obtain ⟨text, _, accepted⟩ := Intake.compile_of_compileSource compiled
  intro block inside entry listed unwritable
  exact (Layout.isPlain_of_compile accepted block inside).1 (.inr ⟨entry, listed, unwritable⟩)

/-! ### One block -/

/-- The fragment is what the type of the block gives, without blanks around it, and not empty. -/
def Block.Renders (registry : Registry) (block : Block) (fragment : Text) : Prop :=
  ∃ definition text, registry.lookup? block.typeId = some definition ∧
    block.outcome definition .html = .produced (.text text) ∧ fragment = Text.strip text ∧ fragment ≠ []

section Shown

variable {block : Block} {drawing : Drawing}

/-- The markup of a block that can be shown is a text and not blank. -/
theorem exists_outcome_html (sound : drawing.IsSound) (shown : block.IsShown) :
    ∃ text, block.outcome drawing.definition .html = .produced (.text text) ∧ Text.strip text ≠ [] := by
  have short : ∀ entry ∈ block.config.entries, IsShort entry.2 :=
    fun entry inside => isShort_of_writable (shown entry inside)
  obtain ⟨markup, drawn⟩ := sound.draws _ (readable_effective sound.defaults short)
  refine ⟨markup.render, ?_, Markup.strip_render_ne_nil (sound.element _ _ drawn)⟩
  rw [outcome_html sound]
  exact congrArg (fun result => Outcome.ofExcept (result.map Markup.render)) drawn

/-- No template of the type of a block that can be shown fails. -/
theorem diagnostics_knownContribution (sound : drawing.IsSound) (shown : block.IsShown) (index : Nat)
    (first : Bool) : (knownContribution drawing.definition index block first).diagnostics = [] := by
  refine List.flatMap_eq_nil_iff.mpr fun part _ => ?_
  have produced : ∃ text, block.outcome drawing.definition part = .produced (.text text) := by
    by_cases html : part = .html
    · obtain ⟨text, same, _⟩ := exists_outcome_html sound shown
      exact ⟨text, html ▸ same⟩
    · exact exists_render_text sound html _
  obtain ⟨text, same⟩ := produced
  rw [same]
  rfl

/-- A block that can be shown is only reported where its type is not registered. Otherwise it gives its
fragment. -/
theorem contribution_shown (shown : block.IsShown) (index : Nat) (seen : List Text) :
    (Registry.standard.contains block.typeId = false ∧
      contribution Registry.standard index seen block = { diagnostics := [lookupDiagnostic index block] }) ∨
    (Registry.standard.contains block.typeId = true ∧ ∃ fragment,
      block.Renders Registry.standard fragment ∧
      (contribution Registry.standard index seen block).html = [fragment] ∧
      (contribution Registry.standard index seen block).diagnostics = []) := by
  cases found : drawingOf? block.typeId with
  | none =>
    have unregistered : Registry.standard.contains block.typeId = false := by
      rw [contains_iff_lookup?, lookup?_standard, found]
      rfl
    exact .inl ⟨unregistered, output_unregistered _ unregistered⟩
  | some drawing =>
    have sound := isSound_of_drawingOf? found
    have known : Registry.standard.lookup? block.typeId = some drawing.definition := by
      rw [lookup?_standard, found]
      rfl
    obtain ⟨text, produced, left⟩ := exists_outcome_html sound shown
    refine .inr ⟨by rw [contains_iff_lookup?, known]; rfl, Text.strip text,
      ⟨_, text, known, produced, rfl, left⟩, ?_, ?_⟩
    · rw [html_contribution, known]
      show (block.outcome drawing.definition .html).fragments = _
      rw [produced, Value.text, fragments_text, Contribution.fragment, if_neg (by rwa [List.isEmpty_iff])]
    · rw [contribution, known]
      exact diagnostics_knownContribution sound shown index _

end Shown

/-! ### All blocks -/

/-- One diagnostic for each block whose type is not registered, from a place on. -/
def Registry.lookupDiagnostics (registry : Registry) (index : Nat) (blocks : List Block) :
    List Diagnostic :=
  ((blocks.zipIdx index).filter fun item => !registry.contains item.1.typeId).map fun item =>
    lookupDiagnostic item.2 item.1

section Blocks

variable {blocks : List Block}

/-- Where everything can be shown, unknown types are the only thing to report. -/
theorem diagnostics_standard (shown : ∀ block ∈ blocks, block.IsShown) :
    ∀ (index : Nat) (seen : List Text),
      (contributionsFrom Registry.standard index seen blocks).flatMap Contribution.diagnostics =
        Registry.standard.lookupDiagnostics index blocks := by
  unfold Registry.lookupDiagnostics
  induction blocks with
  | nil => exact fun _ _ => rfl
  | cons block rest ih =>
    intro index seen
    rw [contributionsFrom, List.flatMap_cons, ih fun other inside => shown other (.tail _ inside),
      List.zipIdx_cons]
    rcases contribution_shown (shown block (.head _)) index seen with
      ⟨unregistered, same⟩ | ⟨registered, _, _, _, none⟩
    · rw [List.filter_cons_of_pos (by rw [unregistered]; rfl), same]
      rfl
    · rw [List.filter_cons_of_neg (by rw [registered]; decide), none, List.nil_append]

/-- Where everything can be shown, every block of a known type is rendered. -/
theorem forall₂_renders (shown : ∀ block ∈ blocks, block.IsShown) :
    ∀ (index : Nat) (seen : List Text),
      List.Forall₂ (Block.Renders Registry.standard) (Registry.standard.known blocks)
        ((contributionsFrom Registry.standard index seen blocks).flatMap Contribution.html) := by
  unfold Registry.known
  induction blocks with
  | nil => exact fun _ _ => .nil
  | cons block rest ih =>
    intro index seen
    have behind := ih (fun other inside => shown other (.tail _ inside)) (index + 1)
    rw [contributionsFrom, List.flatMap_cons]
    rcases contribution_shown (shown block (.head _)) index seen with
      ⟨unregistered, same⟩ | ⟨registered, fragment, renders, html, _⟩
    · rw [List.filter_cons_of_neg (by rw [unregistered]; decide), same]
      exact behind _
    · rw [List.filter_cons_of_pos (by rw [registered]), html]
      exact .cons renders (behind _)

end Blocks

/-! ### Compiled sources -/

/-- The parts that templates name and the shades that a style sheet names are all there. -/
structure Complete (theme : Theme) : Prop where
  unpacked : Unpacked
  darker : Rgb.darken theme.primary.text (.integer 15) = .ok (Theme.shade theme.primary Rgb.darken 15)
  lighter : Rgb.lighten theme.primary.text (.integer 45) = .ok (Theme.shade theme.primary Rgb.lighten 45)

/-- **What a source can say is rendered.** Over the standard library every page of what a source is compiled
to is generated, whatever the theme and all settings are: nothing that is taken apart or computed on the way
is missing. The page is reported for the blocks of types that are not registered, once for each in order, and
for nothing else. Each other block gives one fragment, and none of them is empty. -/
theorem generate_compiled (settings : Settings) (theme : Theme) (page : PageSettings)
    (extras : List (Text × Value)) (source limit : Value) (blocks : List Block)
    (compiled : Intake.compileSource source limit = .ok (.ok blocks)) :
    Complete theme ∧ ∃ generation tree,
      Generator.generate ⟨Registry.standard, settings⟩ (.list (blocks.map .block)) (.theme theme)
        (.pageSettings page extras) = .ok generation ∧
      Generator.resolve ⟨Registry.standard, settings⟩ (.list (blocks.map .block)) = .ok tree ∧
      generation.diagnostics = Registry.standard.lookupDiagnostics 0 blocks ∧
      tree.diagnostics = Registry.standard.lookupDiagnostics 0 blocks ∧
      List.Forall₂ (Block.Renders Registry.standard) (Registry.standard.known blocks) tree.html := by
  have shown := isShown_of_compileSource compiled
  have said : (standardTree settings blocks).diagnostics = Registry.standard.lookupDiagnostics 0 blocks :=
    diagnostics_standard shown 0 []
  obtain ⟨generation, generated, _, same⟩ := generate_standard settings blocks theme page extras
  have complete : Complete theme :=
    ⟨unpacked, Theme.darken_eq_shade _ (by decide), Theme.lighten_eq_shade _ (by decide)⟩
  refine ⟨complete, generation, standardTree settings blocks, generated,
    resolve_standard settings blocks, same.trans said, said, ?_⟩
  exact forall₂_renders shown 0 []

/-- A source with values of kinds that templates do not expect, an empty record and an unknown type. -/
def oddSource : Text := "faq(items: true, title: 1.5) timeline features(items: ';|', cols: 7)"

/-- What the source means. -/
def oddBlocks : List Block :=
  [{ typeId := "faq"
     config := .ofList [("items", .boolean true), ("title", .float (.ofDecimal false [1, 5] (-1)))] },
    { typeId := "timeline" },
    { typeId := "features", config := .ofList [("items", .text ";|"), ("cols", .integer 7)] }]

theorem generate_compiled_odd :
    Intake.compileSource (.text oddSource) .absent = .ok (.ok oddBlocks) ∧
      Complete {} ∧ ∃ generation tree,
        Generator.generate ⟨Registry.standard, {}⟩ (.list (oddBlocks.map .block)) (.theme {})
          (.pageSettings {} []) = .ok generation ∧
        Generator.resolve ⟨Registry.standard, {}⟩ (.list (oddBlocks.map .block)) = .ok tree ∧
        generation.diagnostics = Registry.standard.lookupDiagnostics 0 oddBlocks ∧
        tree.diagnostics = Registry.standard.lookupDiagnostics 0 oddBlocks ∧
        List.Forall₂ (Block.Renders Registry.standard) (Registry.standard.known oddBlocks) tree.html := by
  have compiled : Intake.compileSource (.text oddSource) .absent = .ok (.ok oddBlocks) := by
    decide +kernel
  exact ⟨compiled, generate_compiled {} {} {} [] (.text oddSource) .absent oddBlocks compiled⟩

end BlockPage
