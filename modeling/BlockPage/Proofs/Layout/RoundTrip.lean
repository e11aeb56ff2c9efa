/-
**A written layout is compiled to itself.**

* `isDeclarations_blockLexemes`: the lexemes of written blocks are declarations of these blocks.
* `compile_write`: what is written for blocks is compiled to them, without their handles.
* `Block.Unwritable`, `exists_write_iff`: the blocks that have no written form.
* `sameLayout_declared`: the compiled layout is the same page structure.
* `compileSource_writeValues`: all of it, for blocks that are handed in as values.
-/

import BlockPage.Intake.Writing
import BlockPage.Proofs.Block.Structure
import BlockPage.Proofs.Layout.ReadingExact
import BlockPage.Proofs.Layout.WrittenLayouts

namespace BlockPage

open Number

/-! ### Blocks that can be written -/

/-- The block as it is declared, which is without its handle. -/
def Block.declared (block : Block) : Block := { block with instanceId := none }

/-- A value without a written form: a number that is not finite, or an integer with too many digits. -/
def Scalar.Unwritable : Scalar → Prop
  | .float number => number.isFinite = false
  | .integer value => 4300 < (decimal value.natAbs).length
  | _ => False

instance : DecidablePred Scalar.Unwritable
  | .float number => inferInstanceAs (Decidable (number.isFinite = false))
  | .integer value => inferInstanceAs (Decidable (4300 < (decimal value.natAbs).length))
  | .boolean _ => inferInstanceAs (Decidable False)
  | .text _ => inferInstanceAs (Decidable False)

/-- A block without a written form: its type is no identifier, or one of its values has none. -/
def Block.Unwritable (block : Block) : Prop :=
  Layout.isIdentifier block.typeId = false ∨ ∃ entry ∈ block.config.entries, entry.2.Unwritable

instance : DecidablePred Block.Unwritable := fun block =>
  inferInstanceAs (Decidable (Layout.isIdentifier block.typeId = false ∨
    ∃ entry ∈ block.config.entries, entry.2.Unwritable))

namespace Layout

/-- A value is written unless it is a float that is not finite or an integer beyond the limit. -/
theorem exists_writeScalar_iff (key : Text) (value : Scalar) :
    (∃ text, writeScalar key value = .ok text) ↔ ¬ value.Unwritable := by
  cases value with
  | boolean value => exact iff_of_true ⟨_, rfl⟩ not_false
  | text value => exact iff_of_true ⟨_, rfl⟩ not_false
  | integer value =>
    have limit : Scalar.Unwritable (.integer value) ↔ Integer.exceedsLimit value = true :=
      (exceedsLimit_iff value).symm
    rw [limit]
    dsimp only [writeScalar, Integer.text?]
    cases Integer.exceedsLimit value with
    | false => exact iff_of_true ⟨_, rfl⟩ (by decide)
    | true => exact iff_of_false (not_exists_error _) (by decide)
  | float value =>
    show _ ↔ ¬ value.isFinite = false
    dsimp only [writeScalar]
    cases value.isFinite with
    | true => exact iff_of_true ⟨_, rfl⟩ (by decide)
    | false => exact iff_of_false (not_exists_error _) (by decide)

theorem exists_writeEntry_iff (entry : Text × Scalar) :
    (∃ text, writeEntry entry = .ok text) ↔ ¬ entry.2.Unwritable := by
  rw [← exists_writeScalar_iff entry.1]
  simp only [writeEntry_eq_ok_iff, exists_comm, exists_and_left, exists_eq', and_true]

/-- A block is written when its type is an identifier and all of its entries are written. -/
theorem exists_writeBlock_iff (block : Block) :
    (∃ text, writeBlock block = .ok text) ↔ ¬ block.Unwritable := by
  have entries : (∃ texts, block.config.entries.mapM writeEntry = .ok texts) ↔
      ¬ ∃ entry ∈ block.config.entries, entry.2.Unwritable := by
    rw [exists_mapM_eq_ok_iff]
    simp only [exists_writeEntry_iff, not_exists, not_and]
  rw [Block.Unwritable, not_or, ← entries, Bool.not_eq_false]
  constructor
  · rintro ⟨text, written⟩
    obtain ⟨isName, texts, passed, -⟩ := writeBlock_eq_ok_iff.mp written
    exact ⟨isName, texts, passed⟩
  · rintro ⟨isName, texts, passed⟩
    exact ⟨_, writeBlock_eq_ok_iff.mpr ⟨isName, texts, passed, rfl⟩⟩

/-- A layout has a written form unless one of its blocks has none. -/
theorem exists_write_iff (blocks : List Block) :
    (∃ source, write blocks = .ok source) ↔ ∀ block ∈ blocks, ¬ block.Unwritable := by
  simp only [← exists_writeBlock_iff]
  rw [← exists_mapM_eq_ok_iff]
  simp only [write_eq_ok_iff, exists_comm, exists_and_left, exists_eq', and_true]

/-! ### The lexemes of written blocks -/

section Derivations

theorem isKey_keyLexeme (key : Text) : IsKey (keyLexeme key) key := by
  unfold keyLexeme
  split <;> constructor

theorem isValue_scalarLexeme (value : Scalar) : IsValue (scalarLexeme value) value := by
  cases value <;> constructor

theorem isEntry_entryLexemes (entry : Text × Scalar) : IsEntry (entryLexemes entry) entry :=
  .valued (isKey_keyLexeme entry.1) (isValue_scalarLexeme entry.2)

/-- Entries with commas between them are read as those entries. -/
theorem isEntries_entryLexemes {entries : List (Text × Scalar)} (nonempty : entries ≠ []) :
    IsEntries ([Lexeme.comma].intercalate (entries.map entryLexemes)) entries := by
  induction entries with
  | nil => exact absurd rfl nonempty
  | cons first rest ih =>
    cases rest with
    | nil =>
      have last := IsEntries.last (isEntry_entryLexemes first) (.inl rfl)
      rwa [List.append_nil] at last
    | cons second rest =>
      rw [List.map_cons, List.map_cons, List.intercalate_cons_cons, List.append_assoc]
      exact .more (isEntry_entryLexemes first) (.inr rfl) (ih (List.cons_ne_nil _ _))

/-- What a block is written as declares its type and its configuration. -/
theorem isDeclaration_blockLexemes (block : Block) :
    IsDeclaration (blockLexemes block) block.declared := by
  unfold blockLexemes
  cases entries : block.config.entries with
  | nil =>
    have empty : block.config = ∅ := by
      rw [← OrderedMap.ofList_entries block.config, entries]
      rfl
    have declared : block.declared = { typeId := block.typeId } := by
      rw [Block.declared, empty]
    rw [declared]
    exact .empty block.typeId .parenthesis
  | cons first rest =>
    rw [← entries]
    have nonempty : block.config.entries ≠ [] := entries ▸ List.cons_ne_nil first rest
    exact .body block.typeId .parenthesis (isEntries_entryLexemes nonempty)
      (OrderedMap.binds_entries block.config)

theorem isDeclarations_blockLexemes (blocks : List Block) :
    IsDeclarations (blocks.map blockLexemes).flatten (blocks.map Block.declared) := by
  induction blocks with
  | nil => exact .nil
  | cons block rest ih => exact .cons (isDeclaration_blockLexemes block) ih

/-- The lexemes of a written layout are a document of its blocks. -/
theorem cut_write {blocks : List Block} {source : Text} (written : write blocks = .ok source) :
    ∃ lexemes, Cut source lexemes ∧ IsDocument lexemes (blocks.map Block.declared) := by
  obtain ⟨texts, passed, rfl⟩ := write_eq_ok_iff.mp written
  have each : List.Forall₂ CutsInto texts (blocks.map blockLexemes) :=
    List.forall₂_map_right_iff.mpr ((mapM_eq_ok_iff.mp passed).flip.imp fun _ _ => cutsInto_block)
  exact ⟨_, cut_wrap each, .wrapped (isDeclarations_blockLexemes blocks)⟩

/-- What is written for blocks is compiled to them. -/
theorem compile_write {blocks : List Block} {source : Text} (written : write blocks = .ok source) :
    compile source none = .ok (blocks.map Block.declared) := by
  obtain ⟨lexemes, cut, derived⟩ := cut_write written
  obtain ⟨clean, same⟩ := scan_of_cut cut .start
  exact compileScan_eq_ok_iff.mpr ⟨clean, readTokens_of_document (same.symm ▸ derived)⟩

end Derivations

/-! ### The same page structure -/

section SameStructure

/-- A value that can be written is equal to itself, so no NaN. -/
theorem equal_self {value : Scalar} (writable : ¬ value.Unwritable) : value.equal value = true := by
  cases value with
  | boolean value => exact beq_self_eq_true _
  | integer value => exact beq_self_eq_true _
  | text value => exact beq_self_eq_true _
  | float value =>
    cases value with
    | nan => exact absurd rfl writable
    | infinity negative => exact absurd rfl writable
    | finite negative place => exact beq_self_eq_true _

/-- A block that can be written is the same as itself without its handle. -/
theorem sameStructure_declared {block : Block} (writable : ¬ block.Unwritable) :
    block.sameStructure block.declared = true :=
  Block.sameStructureBy_iff.mpr ⟨rfl, Config.equalBy_self fun entry inside =>
    equal_self fun unwritable => writable (.inr ⟨entry, inside, unwritable⟩)⟩

/-- The handle is not part of the page structure. -/
theorem sameLayout_declared {blocks : List Block} (writable : ∀ block ∈ blocks, ¬ block.Unwritable) :
    sameLayout blocks (blocks.map Block.declared) = true := by
  rw [sameLayout, sameLayoutBy_iff, List.forall₂_map_right_iff, List.forall₂_same]
  exact fun block inside => sameStructure_declared (writable block inside)

end SameStructure

end Layout

namespace Intake

open Layout

theorem coerceBlocks_blocks (blocks : List Block) :
    coerceBlocks (.list (blocks.map .block)) = .ok (blocks.map .checked) := by
  show (blocks.map Value.block).mapM coerceBlock = _
  refine mapM_map_eq_ok (fun block => ?_) blocks
  rfl

theorem writeValues_blocks (blocks : List Block) :
    writeValues (.list (blocks.map .block)) = (write blocks).mapError refuseWriting := by
  rw [writeValues, coerceBlocks_blocks]
  exact writePlacements_checked blocks

/-- **A written layout is compiled to itself.** Writing fails just when one of the blocks has no written
form. What is written for other blocks is compiled without a fault, to blocks of the same types and
configurations in the same order. -/
theorem compileSource_writeValues (blocks : List Block) :
    ((∃ problem, writeValues (.list (blocks.map .block)) = .error problem ∧
        problem.kind = .serialization) ↔ ∃ block ∈ blocks, block.Unwritable) ∧
      ((∀ block ∈ blocks, ¬ block.Unwritable) →
        ∃ source, writeValues (.list (blocks.map .block)) = .ok source ∧
          compileSource (.text source) .absent = .ok (.ok (blocks.map Block.declared)) ∧
          sameLayout blocks (blocks.map Block.declared) = true) := by
  rw [writeValues_blocks]
  constructor
  · have exact' := exists_write_iff blocks
    cases written : write blocks with
    | ok source =>
      have writable := exact'.mp ⟨source, written⟩
      refine iff_of_false ?_ fun ⟨block, inside, unwritable⟩ => writable block inside unwritable
      rintro ⟨_, ⟨⟩, _⟩
    | error fault =>
      refine iff_of_true ⟨refuseWriting fault, rfl, rfl⟩ ?_
      rw [written] at exact'
      by_contra none
      exact not_exists_error fault (exact'.mpr fun block inside unwritable =>
        none ⟨block, inside, unwritable⟩)
  · intro writable
    obtain ⟨source, written⟩ := (exists_write_iff blocks).mpr writable
    refine ⟨source, by rw [written]; rfl, ?_, sameLayout_declared writable⟩
    show Except.ok (compile source none) = _
    rw [compile_write written]

/-- A block whose keys and values need every kind of care. -/
def unusualBlock : Block where
  typeId := "hero"
  config := .ofList [("title", .text [CodePoint.quotationMark, CodePoint.null, 0xD800]),
    ("true", .integer (-7)), ("", .float (.finite true ⟨1, by decide⟩))]
  instanceId := some "first"

theorem compileSource_writeValues_unusual :
    (∀ block ∈ [unusualBlock], ¬ block.Unwritable) ∧
      ∃ source, writeValues (.list ([unusualBlock].map .block)) = .ok source ∧
        compileSource (.text source) .absent = .ok (.ok ([unusualBlock].map Block.declared)) ∧
        sameLayout [unusualBlock] ([unusualBlock].map Block.declared) = true := by
  have writable : ∀ block ∈ [unusualBlock], ¬ block.Unwritable := by decide
  exact ⟨writable, (compileSource_writeValues [unusualBlock]).2 writable⟩

end Intake

end BlockPage
