/-
**Compiled blocks have a written form.**

What a source can mean, writing can express: identifiers that are no keywords, finite numbers, integers
that can be read back, any text. So the written form of compiled blocks is a normal form of their
source. Two sources have the same normal form just when they mean the same blocks.

* `Lexeme.Writable`, `writable_of_cut`: the lexemes of a source have a written form.
* `IsDocument.isPlain`: so do the blocks that they are, none of which has a handle.
* `write_of_compile`: what is compiled, written and compiled again.
* `normalize`, `normalize_exact`: the normal form of a source.
-/

import BlockPage.Proofs.Layout.RoundTrip

namespace BlockPage

namespace Layout

open Number

/-! ### Lexemes -/

/-- The lexeme is no identifier or number without a written form. -/
def Lexeme.Writable : Lexeme → Prop
  | .identifier name => isIdentifier name = true
  | .integer value => ¬ Scalar.Unwritable (.integer value)
  | .float value => ¬ Scalar.Unwritable (.float value)
  | _ => True

/-- A number of few digits is written in few digits. -/
theorem length_decimal_ofDecimalText_le {digits : Text} {most : Nat} (positive : 0 < most)
    (isDigits : ∀ point ∈ digits, CodePoint.isDigit point = true) (short : digits.length ≤ most) :
    (decimal (ofDecimalText digits)).length ≤ most := by
  have small := ofDigits_lt (digitValues_lt isDigits)
  rw [digitValues, List.length_map] at small
  exact (length_decimal_le_iff _ positive).mpr
    (Nat.lt_of_lt_of_le small (Nat.pow_le_pow_right (by decide) short))

/-- A numeral that is read denotes a number that can be written: it is finite and within the limit of
digits. -/
theorem writable_of_denotes {numeral : Numeral} {lexeme : Lexeme} (written : numeral.IsWritten)
    (denotes : numeral.Denotes lexeme) : lexeme.Writable := by
  cases denotes with
  | float _ _ finite => exact fun unwritable => Bool.noConfusion (finite.symm.trans unwritable)
  | integer _ _ short =>
    have digits := length_decimal_ofDecimalText_le (by decide) written.whole short
    refine Nat.not_lt.mpr ?_
    split
    · exact digits
    · rw [Int.natAbs_neg]
      exact digits

/-- So is every lexeme of a segment. -/
theorem writable_of_isSegment {written following : Text} {lexeme : Lexeme}
    (segment : IsSegment written following (some lexeme)) : lexeme.Writable := by
  cases segment with
  | mark inside =>
    revert inside
    simp only [marks, List.mem_cons, List.not_mem_nil, or_false, Prod.mk.injEq]
    rintro (⟨-, rfl⟩ | ⟨-, rfl⟩ | ⟨-, rfl⟩ | ⟨-, rfl⟩ | ⟨-, rfl⟩ | ⟨-, rfl⟩) <;> trivial
  | string _ _ => trivial
  | keyword _ _ => trivial
  | identifier word free =>
    exact isIdentifier_iff.mpr ⟨word.of_stops stops_nil, free⟩
  | number written _ denotes => exact writable_of_denotes written denotes

/-- Every lexeme of a source has a written form. -/
theorem writable_of_cut {source : Text} {lexemes : List Lexeme} (cut : Cut source lexemes) :
    ∀ lexeme ∈ lexemes, lexeme.Writable := by
  induction cut with
  | nil => exact fun _ inside => nomatch inside
  | @cons _ _ first _ segment _ ih =>
    rw [List.forall_mem_append]
    refine ⟨fun lexeme inside => ?_, ih⟩
    obtain rfl := Option.mem_toList.mp inside
    exact writable_of_isSegment segment

/-! ### Blocks -/

theorem IsValue.writable {lexeme : Lexeme} {value : Scalar} (isValue : IsValue lexeme value)
    (writable : lexeme.Writable) : ¬ value.Unwritable := by
  cases isValue with
  | string | boolean | identifier => exact not_false
  | integer | float => exact writable

theorem IsEntry.writable {lexemes : List Lexeme} {entry : Text × Scalar}
    (isEntry : IsEntry lexemes entry) (writable : ∀ lexeme ∈ lexemes, lexeme.Writable) :
    ¬ entry.2.Unwritable := by
  cases isEntry with
  | alone _ => exact not_false
  | valued _ isValue => exact isValue.writable (writable _ (.tail _ (.tail _ (.head _))))

theorem IsEntries.writable {lexemes : List Lexeme} {entries : List (Text × Scalar)}
    (isEntries : IsEntries lexemes entries) :
    (∀ lexeme ∈ lexemes, lexeme.Writable) → ∀ entry ∈ entries, ¬ entry.2.Unwritable := by
  induction isEntries with
  | last isEntry _ =>
    intro writable
    rw [List.forall_mem_append] at writable
    rw [List.forall_mem_singleton]
    exact isEntry.writable writable.1
  | more isEntry _ _ ih =>
    intro writable
    rw [List.forall_mem_append, List.forall_mem_append] at writable
    rw [List.forall_mem_cons]
    exact ⟨isEntry.writable writable.1, ih writable.2.2⟩

/-- A block that has a written form and no handle. -/
def IsPlain (block : Block) : Prop := ¬ block.Unwritable ∧ block.declared = block

/-- A declaration of writable lexemes is a block that can be written, and is what it declares. -/
theorem IsDeclaration.isPlain {lexemes : List Lexeme} {block : Block}
    (declaration : IsDeclaration lexemes block) (writable : ∀ lexeme ∈ lexemes, lexeme.Writable) :
    IsPlain block := by
  -- the name comes first in each form
  have named {name : Text} {rest : List Lexeme} {config : Config}
      (writable : ∀ lexeme ∈ Lexeme.identifier name :: rest, lexeme.Writable)
      (values : ∀ entry ∈ config.entries, ¬ entry.2.Unwritable) :
      IsPlain { typeId := name, config := config } := by
    refine ⟨?_, rfl⟩
    rintro (other | ⟨entry, inside, unwritable⟩)
    · exact Bool.noConfusion ((writable _ (.head _)).symm.trans other)
    · exact values entry inside unwritable
  cases declaration with
  | bare name => exact named writable fun _ inside => nomatch inside
  | empty name bracket => exact named writable fun _ inside => nomatch inside
  | body name bracket isEntries binds =>
    have values := isEntries.writable fun lexeme inside =>
      writable lexeme (.tail _ (.tail _ (List.mem_append_left _ inside)))
    exact named writable fun entry inside => values entry (binds.mem_of_mem inside)

theorem IsDeclarations.isPlain {lexemes : List Lexeme} {blocks : List Block}
    (declarations : IsDeclarations lexemes blocks) :
    (∀ lexeme ∈ lexemes, lexeme.Writable) → ∀ block ∈ blocks, IsPlain block := by
  induction declarations with
  | nil => exact fun _ _ inside => nomatch inside
  | cons declaration _ ih =>
    intro writable
    rw [List.forall_mem_append] at writable
    rw [List.forall_mem_cons]
    exact ⟨declaration.isPlain writable.1, ih writable.2⟩

/-- **All blocks of a document of writable lexemes can be written.** -/
theorem IsDocument.isPlain {lexemes : List Lexeme} {blocks : List Block}
    (document : IsDocument lexemes blocks) (writable : ∀ lexeme ∈ lexemes, lexeme.Writable) :
    ∀ block ∈ blocks, IsPlain block := by
  cases document with
  | wrapped declarations =>
    rw [List.forall_mem_append, List.forall_mem_append] at writable
    exact declarations.isPlain writable.2.1
  | plain _ declarations => exact declarations.isPlain writable

/-- A source that is compiled is cut into the lexemes of a document. -/
theorem document_of_compile {source : Text} {blocks : List Block}
    (compiled : compile source none = .ok blocks) :
    ∃ lexemes, Cut source lexemes ∧ IsDocument lexemes blocks := by
  obtain ⟨clean, read⟩ := compileScan_eq_ok_iff.mp compiled
  exact ⟨_, cut_of_scan clean, document_of_readTokens read⟩

/-- What a source is compiled to has a written form and no handles. -/
theorem isPlain_of_compile {source : Text} {blocks : List Block}
    (compiled : compile source none = .ok blocks) : ∀ block ∈ blocks, IsPlain block := by
  obtain ⟨lexemes, cut, document⟩ := document_of_compile compiled
  exact document.isPlain (writable_of_cut cut)

/-- What is compiled is written, and the written form is compiled to the same. -/
theorem write_of_compile {source : Text} {blocks : List Block}
    (compiled : compile source none = .ok blocks) :
    ∃ text, write blocks = .ok text ∧ compile text none = .ok blocks := by
  have plain := isPlain_of_compile compiled
  obtain ⟨text, written⟩ := (exists_write_iff blocks).mpr fun block inside => (plain block inside).1
  have declared : blocks.map Block.declared = blocks := by
    rw [List.map_congr_left fun block inside => (plain block inside).2, List.map_id']
  exact ⟨text, written, declared ▸ compile_write written⟩

end Layout

/-! ### Normal forms -/

namespace Intake

open Layout

/-- The written form of the blocks of a source within a limit, or the faults of the source. -/
def normalize (source limit : Value) : Except Problem (Except (List SourceError) Text) := do
  match ← compileSource source limit with
  | .error errors => return .error errors
  | .ok blocks => return .ok (← writeValues (.list (blocks.map .block)))

/-- Within a limit a source means what it means without one. -/
theorem compile_of_compileSource {source limit : Value} {blocks : List Block}
    (compiled : compileSource source limit = .ok (.ok blocks)) :
    ∃ text, source = .text text ∧ compile text none = .ok blocks := by
  unfold compileSource at compiled
  obtain ⟨text, read, compiled⟩ := bind_eq_ok_iff.mp compiled
  have same : source = .text text := by
    unfold readSource at read
    split at read
    · cases read
      rfl
    · cases read
  refine ⟨text, same, ?_⟩
  split at compiled
  · exact Except.ok.inj compiled
  · obtain ⟨long, _, compiled⟩ := bind_eq_ok_iff.mp compiled
    cases long with
    | false => exact Except.ok.inj compiled
    | true =>
      obtain ⟨shown, _, compiled⟩ := bind_eq_ok_iff.mp compiled
      cases compiled

/-- Normalizing a source that compiles is writing what it compiles to. -/
theorem normalize_eq_ok_iff {source limit : Value} {blocks : List Block}
    (compiled : compileSource source limit = .ok (.ok blocks)) {text : Text} :
    normalize source limit = .ok (.ok text) ↔ writeValues (.list (blocks.map .block)) = .ok text := by
  unfold normalize
  rw [compiled]
  dsimp only [bind, Except.bind]
  cases writeValues (.list (blocks.map .block)) with
  | error problem => exact iff_of_false (fun passed => nomatch passed) fun passed => nomatch passed
  | ok written => simp [pure, Except.pure]

/-- **The normal form of a source.** What any source is compiled to is written without a refusal. The
text that is written is compiled to the same blocks and is its own normal form. Another source has this
normal form just when it is compiled to the same blocks. -/
theorem normalize_exact (source limit : Value) (blocks : List Block)
    (compiled : compileSource source limit = .ok (.ok blocks)) :
    ∃ text, writeValues (.list (blocks.map .block)) = .ok text ∧
      normalize source limit = .ok (.ok text) ∧
      compileSource (.text text) .absent = .ok (.ok blocks) ∧
      normalize (.text text) .absent = .ok (.ok text) ∧
      ∀ (other otherLimit : Value) (otherBlocks : List Block),
        compileSource other otherLimit = .ok (.ok otherBlocks) →
          (normalize other otherLimit = .ok (.ok text) ↔ otherBlocks = blocks) := by
  have writes {layout : List Block} {text : Text} (written : write layout = .ok text) :
      writeValues (.list (layout.map .block)) = .ok text := by
    rw [writeValues_blocks, written]
    rfl
  have compiles {layout : List Block} {text : Text} (again : compile text none = .ok layout) :
      compileSource (.text text) .absent = .ok (.ok layout) := congrArg Except.ok again
  obtain ⟨_, _, accepted⟩ := compile_of_compileSource compiled
  obtain ⟨text, written, again⟩ := write_of_compile accepted
  refine ⟨text, writes written, (normalize_eq_ok_iff compiled).mpr (writes written), compiles again,
    (normalize_eq_ok_iff (compiles again)).mpr (writes written), ?_⟩
  intro other otherLimit otherBlocks otherCompiled
  rw [normalize_eq_ok_iff otherCompiled]
  constructor
  · -- a text means the blocks for which it is written
    intro same
    obtain ⟨_, _, otherAccepted⟩ := compile_of_compileSource otherCompiled
    obtain ⟨otherText, otherWritten, otherAgain⟩ := write_of_compile otherAccepted
    obtain rfl := Except.ok.inj ((writes otherWritten).symm.trans same)
    exact Except.ok.inj (otherAgain.symm.trans again)
  · rintro rfl
    exact writes written

/-- A source with bare and repeated keys, single quotes, leading zeros, an exponent and a comment. -/
def untidySource : Text := "hero \x7b 'a': -007 b, a: 1E2 \x7d // end"

/-- What the source means. -/
def untidyBlocks : List Block :=
  [{ typeId := "hero"
     config := .ofList [("a", .float (Binary64.ofDecimal false [1] 2)), ("b", .boolean true)] }]

theorem normalize_exact_untidy :
    compileSource (.text untidySource) .absent = .ok (.ok untidyBlocks) ∧
      ∃ text, writeValues (.list (untidyBlocks.map .block)) = .ok text ∧
        normalize (.text untidySource) .absent = .ok (.ok text) ∧
        compileSource (.text text) .absent = .ok (.ok untidyBlocks) ∧
        normalize (.text text) .absent = .ok (.ok text) ∧
        ∀ (other otherLimit : Value) (otherBlocks : List Block),
          compileSource other otherLimit = .ok (.ok otherBlocks) →
            (normalize other otherLimit = .ok (.ok text) ↔ otherBlocks = untidyBlocks) := by
  have compiled : compileSource (.text untidySource) .absent = .ok (.ok untidyBlocks) := by
    decide +kernel
  exact ⟨compiled, normalize_exact (.text untidySource) .absent untidyBlocks compiled⟩

end Intake

end BlockPage
