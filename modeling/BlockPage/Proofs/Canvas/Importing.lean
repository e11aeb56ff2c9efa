/-
**Importing replaces all blocks or none.**

A source is too long, or has faults, or has blocks. Only in the last case is the canvas changed: the blocks
take the place of those on it, each under a handle of its own. What is exported of a session is a source of
the same blocks, so importing it again changes handles alone.

* `compile_within`, `compile_beyond`: a limit decides whether a source is looked at.
* `Canvas.importLayout_of_refused`, `Canvas.importLayout_of_compiled`: the two outcomes of an import;
  `Canvas.importLayout_exported`: that of an export.
* `Canvas.ImportsExactly`, `importsExactly`: what an import does to any canvas.
* `Canvas.reimport`, `Canvas.ReimportsExactly`, `reimportsExactly`: what exporting and importing again
  does to a canvas of checked blocks.
* `Canvas.import_session`: both, behind any session.
-/

import BlockPage.Intake.Writing
import BlockPage.Proofs.Canvas.Sessions
import BlockPage.Proofs.Layout.Normalization

namespace BlockPage

open Layout

/-! ### Limits -/

namespace Layout

variable {source : Text} {limit : Int}

/-- A limit that is kept makes no difference. -/
theorem compile_within (short : source.length ≤ limit) :
    compile source (some limit) = compile source none :=
  if_neg (Int.not_lt.mpr short)

/-- A source beyond the limit has a fault. -/
theorem compile_beyond (long : limit < source.length) :
    ∃ errors, errors ≠ [] ∧ compile source (some limit) = .error errors :=
  ⟨_, List.cons_ne_nil _ _, if_pos long⟩

theorem errors_ne_nil {errors : List SourceError} (refused : compile source none = .error errors) :
    errors ≠ [] := by
  rcases compileScan_eq_error_iff.mp refused with ⟨faulty, rfl⟩ | ⟨_, _, _, rfl⟩
  · exact faulty
  · exact List.cons_ne_nil _ _

end Layout

namespace Canvas

variable (canvas : Canvas) (generator : Generator) (source : Text) (fresh : Nat → Text)

/-! ### One import -/

/-- Checked blocks, each under the handle that is drawn for its place. -/
def underHandles (blocks : List Block) (fresh : Nat → Text) : List Placement :=
  blocks.mapIdx fun index block => .checked { block with instanceId := some (fresh index) }

/-- Blocks without handles take the drawn ones. -/
theorem replaceBlocks_plain {blocks : List Block} (plain : ∀ block ∈ blocks, block.instanceId = none) :
    canvas.replaceBlocks (blocks.map .checked) fresh =
      { canvas with blocks := underHandles blocks fresh } := by
  have same : (blocks.map Placement.checked).mapIdx (fun index placement =>
      withHandle placement (fresh index)) = underHandles blocks fresh := by
    refine List.ext_getElem (by simp [underHandles]) fun index bound bound' => ?_
    have here : index < blocks.length := by simpa using bound
    have missing := plain blocks[index] (List.getElem_mem here)
    simp [underHandles, withHandle, Placement.instanceId, missing, Placement.withInstanceId,
      Value.ofOption, Value.isTruthy]
  rw [replaceBlocks, same]

/-- The faults of a source leave the canvas as it is. -/
theorem importLayout_of_refused {errors : List SourceError}
    (refused : compile source (some generator.settings.sourceLimit) = .error errors) :
    canvas.importLayout generator source fresh = (canvas, errors) := by
  rw [importLayout, Generator.importLayout, refused]

/-- A source beyond the limit leaves the canvas as it is. -/
theorem importLayout_beyond (long : generator.settings.sourceLimit < source.length) :
    ∃ errors, errors ≠ [] ∧ canvas.importLayout generator source fresh = (canvas, errors) := by
  obtain ⟨errors, nonempty, refused⟩ := compile_beyond long
  exact ⟨errors, nonempty, canvas.importLayout_of_refused generator source fresh refused⟩

/-- What is compiled has no handles, so each block takes the drawn one. -/
theorem importLayout_of_compiled {blocks : List Block}
    (short : source.length ≤ generator.settings.sourceLimit)
    (compiled : compile source none = .ok blocks) :
    canvas.importLayout generator source fresh =
      ({ canvas with blocks := underHandles blocks fresh }, []) := by
  have plain : ∀ block ∈ blocks, block.instanceId = none := fun block inside =>
    (congrArg Block.instanceId (isPlain_of_compile compiled block inside).2).symm
  rw [importLayout, Generator.importLayout, compile_within short, compiled, ← replaceBlocks_plain]
  exact plain

/-- What an import does to a canvas. -/
structure ImportsExactly : Prop where
  /-- It is refused when the source is too long or has faults. -/
  refused_iff : (canvas.importLayout generator source fresh).2 ≠ [] ↔
    generator.settings.sourceLimit < source.length ∨ (compile source none).errors ≠ []
  /-- A refused one changes nothing. -/
  unchanged : (canvas.importLayout generator source fresh).2 ≠ [] →
    (canvas.importLayout generator source fresh).1 = canvas
  /-- Any other puts the compiled blocks in place of all others, in order and under drawn handles. -/
  replaced : (canvas.importLayout generator source fresh).2 = [] →
    ∃ blocks, compile source none = .ok blocks ∧
      (canvas.importLayout generator source fresh).1.blocks = underHandles blocks fresh
  /-- All of them have handles that are not empty. -/
  handles : (canvas.importLayout generator source fresh).2 = [] →
    ∀ placement ∈ (canvas.importLayout generator source fresh).1.blocks,
      ∃ handle, handle ≠ [] ∧ placement.instanceId = .text handle
  /-- The page generated last is kept. -/
  generated : (canvas.importLayout generator source fresh).1.generated = canvas.generated

/-- Imported blocks have handles. -/
theorem exists_handle_of_mem {blocks : List Block} (filled : ∀ index, fresh index ≠ [])
    {placement : Placement} (inside : placement ∈ underHandles blocks fresh) :
    ∃ handle, handle ≠ [] ∧ placement.instanceId = .text handle := by
  obtain ⟨index, _, rfl⟩ := List.mem_mapIdx.mp inside
  exact ⟨fresh index, filled index, rfl⟩

/-- **An import replaces all blocks or none.** -/
theorem importsExactly (filled : ∀ index, fresh index ≠ []) :
    canvas.ImportsExactly generator source fresh := by
  by_cases long : generator.settings.sourceLimit < source.length
  · obtain ⟨errors, nonempty, outcome⟩ := canvas.importLayout_beyond generator source fresh long
    constructor <;> simp [outcome, nonempty, long]
  · have short := Int.not_lt.mp long
    cases compiled : compile source none with
    | error errors =>
      have nonempty := errors_ne_nil compiled
      have outcome := canvas.importLayout_of_refused generator source fresh
        ((compile_within short).trans compiled)
      constructor <;> simp [outcome, nonempty, compiled, Compilation.errors]
    | ok blocks =>
      have outcome := canvas.importLayout_of_compiled generator source fresh short compiled
      constructor
      case handles =>
        rw [outcome]
        exact fun _ _ => exists_handle_of_mem fresh filled
      all_goals simp [outcome, long, compiled, Compilation.errors]

/-! ### Importing what is exported -/

/-- The canvas behind an export and the import of what is exported, unless there is nothing to import. -/
def reimport : Canvas :=
  match Intake.writePlacements canvas.blocks with
  | .ok text => (canvas.importLayout generator text fresh).1
  | .error _ => canvas

/-- What exporting a canvas and importing it again does. -/
structure ReimportsExactly : Prop where
  /-- What is not too long is imported, and nothing but handles is new: the same blocks have the same types
  and entries, in the same order. -/
  within : ∀ text, Intake.writePlacements canvas.blocks = .ok text →
    text.length ≤ generator.settings.sourceLimit →
      (canvas.importLayout generator text fresh).2 = [] ∧
      ∃ blocks, canvas.blocks = blocks.map .checked ∧
        (canvas.reimport generator fresh).blocks = underHandles blocks fresh
  /-- What is too long changes nothing. -/
  beyond : ∀ text, Intake.writePlacements canvas.blocks = .ok text →
    generator.settings.sourceLimit < text.length → canvas.reimport generator fresh = canvas
  /-- What cannot be exported changes nothing. -/
  unwritten : ∀ problem, Intake.writePlacements canvas.blocks = .error problem →
    canvas.reimport generator fresh = canvas
  /-- The page generated last is kept. -/
  generated : (canvas.reimport generator fresh).generated = canvas.generated

/-- Handles that blocks had before do not matter. -/
theorem underHandles_declared (blocks : List Block) :
    underHandles (blocks.map Block.declared) fresh = underHandles blocks fresh :=
  List.ext_getElem (by simp [underHandles]) fun index bound bound' => by
    simp [underHandles, Block.declared]

/-- What is exported of checked blocks means the same blocks. -/
theorem compile_exported {blocks : List Block} {text : Text}
    (exported : Intake.writePlacements (blocks.map .checked) = .ok text) :
    compile text none = .ok (blocks.map Block.declared) := by
  rw [Intake.writePlacements_checked, mapError_eq_ok_iff] at exported
  exact compile_write exported

section Checked

variable {canvas : Canvas} {blocks : List Block} (same : canvas.blocks = blocks.map .checked)
include same

/-- What was exported is imported under fresh handles. -/
theorem importLayout_exported {text : Text} (exported : Intake.writePlacements canvas.blocks = .ok text)
    (short : text.length ≤ generator.settings.sourceLimit) :
    canvas.importLayout generator text fresh =
      ({ canvas with blocks := underHandles blocks fresh }, []) := by
  rw [same] at exported
  rw [← underHandles_declared fresh blocks]
  exact canvas.importLayout_of_compiled generator text fresh short (compile_exported exported)

/-- What is exported is imported, or too long. -/
theorem importLayout_fst_exported {text : Text} (exported : Intake.writePlacements canvas.blocks = .ok text) :
    (canvas.importLayout generator text fresh).1 =
      if generator.settings.sourceLimit < text.length then canvas
      else { canvas with blocks := underHandles blocks fresh } := by
  split
  · next long =>
    obtain ⟨errors, _, outcome⟩ := canvas.importLayout_beyond generator text fresh long
    rw [outcome]
  · next short => rw [importLayout_exported generator fresh same exported (Int.not_lt.mp short)]

end Checked

/-- **An export can be imported again**, by any generator whose limit it keeps. -/
theorem reimportsExactly {canvas : Canvas} (checked : canvas.IsChecked) :
    canvas.ReimportsExactly generator fresh := by
  obtain ⟨blocks, same⟩ := isChecked_iff.mp checked
  have exporting {text : Text} (exported : Intake.writePlacements canvas.blocks = .ok text) :
      canvas.reimport generator fresh = (canvas.importLayout generator text fresh).1 := by
    rw [reimport, exported]
  constructor
  case within =>
    intro text exported short
    rw [exporting exported, importLayout_exported generator fresh same exported short]
    exact ⟨rfl, blocks, same, rfl⟩
  case beyond =>
    intro text exported long
    rw [exporting exported, importLayout_fst_exported generator fresh same exported, if_pos long]
  case unwritten =>
    intro problem refused
    rw [reimport, refused]
  case generated =>
    unfold reimport
    split
    · next text exported =>
      rw [importLayout_fst_exported generator fresh same exported]
      split <;> rfl
    · rfl

/-! ### Sessions -/

/-- **Importing replaces all blocks of a session or none.** Behind any session, a source that is too long or
has faults changes nothing and its faults are given. Any other source has its blocks put in place of those of
the session, in order and each under a handle that is not empty. What is exported of a session and not too
long is imported to blocks of the same types, entries and orders. What is too long, or cannot be exported,
changes nothing. -/
theorem import_session (edits : List Edit) (generator : Generator) (source : Text) (fresh : Nat → Text)
    (filled : ∀ index, fresh index ≠ []) :
    (session edits).ImportsExactly generator source fresh ∧
      (session edits).ReimportsExactly generator fresh :=
  ⟨importsExactly _ generator source fresh filled,
    reimportsExactly generator fresh (isChecked_session edits)⟩

/-- Two blocks are loaded and exchanged, and one of them gets an entry more. -/
def shortSession : List Edit :=
  [.load ⟨.standard, {}⟩ "hero \x7b title: Hello \x7d footer" fun index => [0x61 + index],
   .move (.text "b") (.text "up"), .update (.text "a") (.text "size") (.integer 3), .remove (.text "c")]

/-- Handles of one code point each. -/
def letterHandles (index : Nat) : Text := [0x78 + index]

/-- A short session, and an import behind it. -/
theorem import_session_short :
    (∀ index, letterHandles index ≠ []) ∧ (session shortSession).blocks.length = 2 ∧
      (session shortSession).ImportsExactly ⟨.standard, {}⟩ "cta stats" letterHandles ∧
      (session shortSession).ReimportsExactly ⟨.standard, {}⟩ letterHandles := by
  have filled : ∀ index, letterHandles index ≠ [] := fun _ => List.cons_ne_nil _ _
  have two : (session shortSession).blocks.length = 2 := by decide +kernel
  exact ⟨filled, two, import_session shortSession ⟨.standard, {}⟩ "cta stats" letterHandles filled⟩

end Canvas

end BlockPage
