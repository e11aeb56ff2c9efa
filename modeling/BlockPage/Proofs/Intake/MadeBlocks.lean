/-
**Blocks that pass their checks.**

A block is made from a type and a configuration, which are looked at when it is made. A block that has a
written form passes, for its type is an identifier.

* `isTypeName_identifier`, `readConfig_ofConfig`: the two parts.
* `Block.IsValid`, `isValid_of_isPlain`: the whole block.
-/

import BlockPage.Proofs.Intake.Blocks
import BlockPage.Proofs.Layout.Normalization

namespace BlockPage

namespace Intake

open Layout

/-! ### The parts of a block -/

/-- Identifiers hold no surrogates. -/
theorem surrogate_of_continuesIdentifier {point : CodePoint}
    (continues : continuesIdentifier point = true) : Text.isSurrogate point = false := by
  have small := lt_of_continuesIdentifier continues
  rw [Text.isSurrogate, Bool.and_eq_false_iff]
  exact .inl (decide_eq_false (Nat.not_le.mpr (Nat.lt_trans small (by decide))))

/-- Every identifier can name a type. -/
theorem isTypeName_identifier {name : Text} (isName : isIdentifier name = true) : IsTypeName name := by
  obtain ⟨word, _⟩ := isIdentifier_iff.mp isName
  obtain ⟨first, rest, rfl, _⟩ := word.starts
  exact ⟨List.cons_ne_nil first rest, fun point inside =>
    surrogate_of_continuesIdentifier (word.continues point inside)⟩

/-- A configuration is read as it is. -/
theorem readConfig_ofConfig (config : Config) : readConfig .strict (.ofConfig config) = .fits config := by
  show readConfig .strict (.map (Entries.ofConfig config)) = _
  rw [Entries.ofConfig_eq_ofFields, readConfig_ofFields_iff]

/-! ### Whole blocks -/

/-- What a type and a configuration are handed in as. -/
def declaredEntries (block : Block) : Entries :=
  .ofFields [("type_id", .text block.typeId), ("config", .ofConfig block.config)]

/-- The block is what its checks make of its type and its configuration: the type is not empty, keys are
texts, and values are truth values, integers, finite numbers or texts. -/
structure IsValid (block : Block) : Prop where
  typeId : block.typeId ≠ []
  finite : ∀ entry ∈ block.config.entries, ∀ number, entry.2 = .float number →
    number.isFinite = true
  made : readBlock (declaredEntries block) = .fits block

/-- A block of a type that is an identifier is read as it is, without its handle. -/
theorem readBlock_declaredEntries {block : Block} (isName : isIdentifier block.typeId = true) :
    readBlock (declaredEntries block) = .fits block.declared := by
  have typeId : required (declaredEntries block) "type_id" (readNonEmpty .strict) =
      .fits block.typeId := by
    rw [required, declaredEntries, Entries.get?_ofFields]
    show (readNonEmpty .strict (.text block.typeId)).under _ = _
    rw [readNonEmpty_eq_fits_iff.mpr ⟨rfl, isTypeName_identifier isName⟩, Checked.under]
  have config : optional (declaredEntries block) "config" ∅ (readConfig .strict) =
      .fits block.config := by
    rw [optional, declaredEntries, Entries.get?_ofFields]
    show (readConfig .strict (.ofConfig block.config)).under _ = _
    rw [readConfig_ofConfig, Checked.under]
  have instanceId : optional (declaredEntries block) "instance_id" none
      (readOption (readText .strict)) = .fits none := by
    rw [optional, declaredEntries, Entries.get?_ofFields]
    rfl
  rw [readBlock, typeId, config, instanceId]
  rfl

/-- What a layout can say passes every check. -/
theorem isValid_of_isPlain {block : Block} (plain : IsPlain block) : IsValid block := by
  obtain ⟨writable, declared⟩ := plain
  have isName : isIdentifier block.typeId = true := by
    rw [← Bool.not_eq_false]
    exact fun other => writable (.inl other)
  refine ⟨?_, ?_, ?_⟩
  · intro empty
    rw [empty] at isName
    cases isName
  · intro entry inside number same
    rw [← Bool.not_eq_false]
    exact fun infinite => writable (.inr ⟨entry, inside, same ▸ infinite⟩)
  · rw [readBlock_declaredEntries isName, declared]

end Intake

end BlockPage
