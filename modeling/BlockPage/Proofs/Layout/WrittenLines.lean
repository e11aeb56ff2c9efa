/-
**A written layout has a line for each block.**

Strings write every code point below the space by an escape, and so does the deletion mark; names, numbers
and punctuation hold none. So the only newlines of a written layout are those that the wrapper puts between
its lines, and each line in it is a source of its own.

* `IsVisible`: a text without such code points; `isVisible_block`: the written form of a block.
* `wrap_eq_join`: a written layout as its lines.
* `compile_line`: the line of a block, compiled alone.
* `writeValues_lines`: all of it, for blocks that are handed in as values.
-/

import BlockPage.Proofs.Layout.Wrapping
import BlockPage.Proofs.Text.Parts

namespace BlockPage.Layout

open CodePoint Number

/-! ### Texts without control characters -/

/-- No code point of the text is below the space, and none is the deletion mark. -/
def IsVisible (text : Text) : Prop := ∀ point ∈ text, space ≤ point ∧ point ≠ delete

instance : DecidablePred IsVisible := fun text =>
  inferInstanceAs (Decidable (∀ point ∈ text, space ≤ point ∧ point ≠ delete))

section Visible

variable {text other : Text}

theorem IsVisible.append (front : IsVisible text) (back : IsVisible other) : IsVisible (text ++ other) :=
  List.forall_mem_append.mpr ⟨front, back⟩

theorem isVisible_join {separator : Text} (between : IsVisible separator) {parts : List Text}
    (each : ∀ part ∈ parts, IsVisible part) : IsVisible (Text.join separator parts) := by
  intro point inside
  rcases mem_of_mem_intercalate inside with separating | ⟨part, listed, inner⟩
  · exact between point separating
  · exact each part listed point inner

/-- A visible text is one line. -/
theorem IsVisible.newline_not_mem (visible : IsVisible text) : newline ∉ text := fun inside =>
  absurd (visible newline inside).1 (by decide)

end Visible

/-! ### The parts of a layout -/

theorem isVisible_identifier {name : Text} (isName : isIdentifier name = true) : IsVisible name := by
  have table : ∀ point < 0x7B, continuesIdentifier point = true → space ≤ point ∧ point ≠ delete := by
    decide
  intro point inside
  have continues := (isIdentifier_iff.mp isName).1.continues point inside
  exact table point (lt_of_continuesIdentifier continues) continues

/-- Whatever is quoted is written with visible code points: control characters are escaped. -/
theorem isVisible_quotePoint (point : CodePoint) : IsVisible (quotePoint point) := by
  unfold quotePoint
  split_ifs with isBackslash isQuote isNewline isReturn isTab isNull control
  iterate 6 decide
  · -- these few code points are written by their hexadecimal digits
    have table : ∀ point < 0x80, (point < 0x20 || point = delete) = true →
        IsVisible (Text.ofString "\\u" ++ Text.hexadecimal 4 point) := by
      decide
    refine table point ?_ control
    rcases Bool.or_eq_true _ _ ▸ control with below | same
    · exact Nat.lt_trans (of_decide_eq_true below) (by decide)
    · rw [of_decide_eq_true same]
      decide
  · rw [Bool.not_eq_true, Bool.or_eq_false_iff] at control
    intro other inside
    rw [List.mem_singleton.mp inside]
    exact ⟨Nat.not_lt.mp (of_decide_eq_false control.1), of_decide_eq_false control.2⟩

theorem isVisible_quote (text : Text) : IsVisible (quote text) := by
  have body : IsVisible (text.flatMap quotePoint) := by
    intro point inside
    obtain ⟨origin, _, written⟩ := List.mem_flatMap.mp inside
    exact isVisible_quotePoint origin point written
  have mark : IsVisible [quotationMark] := by decide
  exact mark.append (body.append mark)

theorem isVisible_key (key : Text) : IsVisible (writeKey key) := by
  unfold writeKey
  split
  · next isName => exact isVisible_identifier isName
  · exact isVisible_quote key

theorem isVisible_number {text : Text} {lexeme : Lexeme} (writes : Numeral.Writes text lexeme) :
    IsVisible text := by
  have table : ∀ point < 0x3A, isDigit point = true → space ≤ point ∧ point ≠ delete := by decide
  obtain ⟨numeral, isWritten, -, rfl⟩ := writes
  intro point inside
  rcases isWritten.mem_text inside with digit | other
  · have last : point ≤ 0x39 := of_decide_eq_true (Bool.and_eq_true _ _ ▸ digit).2
    exact table point (Nat.lt_succ_of_le last) digit
  · have marks : ∀ mark ∈ [hyphen, plus, fullStop, letterE, 0x45], space ≤ mark ∧ mark ≠ delete := by
      decide
    exact marks point other

theorem isVisible_scalar {key text : Text} {value : Scalar}
    (written : writeScalar key value = .ok text) : IsVisible text := by
  cases writes_of_writeScalar written with
  | boolean value => cases value <;> decide
  | number writes => exact isVisible_number writes
  | text value => exact isVisible_quote value

theorem isVisible_entry {entry : Text × Scalar} {text : Text} (written : writeEntry entry = .ok text) :
    IsVisible text := by
  obtain ⟨value, shown, rfl⟩ := writeEntry_eq_ok_iff.mp written
  have between : IsVisible ": " := by decide
  rw [concat_cons, concat_cons, concat_singleton]
  exact (isVisible_key entry.1).append (between.append (isVisible_scalar shown))

/-- **A written block is visible**, and so one line of its own. -/
theorem isVisible_block {block : Block} {text : Text} (written : writeBlock block = .ok text) :
    IsVisible text := by
  obtain ⟨isName, entries, shown, rfl⟩ := writeBlock_eq_ok_iff.mp written
  have each : ∀ entry ∈ entries, IsVisible entry := by
    intro entry inside
    obtain ⟨_, _, passed⟩ := exists_of_mem_mapM shown inside
    exact isVisible_entry passed
  have opening : IsVisible "(" := by decide
  have closing : IsVisible ")" := by decide
  rw [writeDeclaration, concat_cons, concat_cons, concat_cons, concat_singleton]
  exact (isVisible_identifier isName).append
    (opening.append ((isVisible_join (by decide) each).append closing))

/-! ### Lines -/

/-- The first line of a written layout. -/
def firstLine : Text := "layout \x7b"

/-- The last line of a written layout. -/
def lastLine : Text := "\x7d"

/-- The lines of a written layout. -/
def linesOf (declarations : List Text) : List Text :=
  firstLine :: (declarations.map (margin ++ ·) ++ [lastLine])

section Lines

variable {declarations : List Text}

/-- A written layout that is not empty is its lines. -/
theorem wrap_eq_join (nonempty : declarations ≠ []) :
    wrap declarations = Text.join [newline] (linesOf declarations) := by
  have isEmpty : declarations.isEmpty = false := by simpa using nonempty
  have inner : declarations.map (margin ++ ·) ≠ [] := by simpa using nonempty
  have opening : layoutWord ++ Text.ofString " \x7b\n" = firstLine ++ [newline] := by decide
  have closing : Text.ofString "\n\x7d" = [newline] ++ lastLine := by decide
  rw [wrap, isEmpty, if_neg (by decide), concat_cons, concat_cons, concat_cons, concat_singleton,
    linesOf, Text.join_cons [newline] firstLine (by simp), Text.join_concat [newline] inner,
    ← List.append_assoc, opening, closing, List.append_assoc]

/-- No line of a written layout breaks. -/
theorem isVisible_linesOf (each : ∀ declaration ∈ declarations, IsVisible declaration) :
    ∀ line ∈ linesOf declarations, IsVisible line := by
  have first : IsVisible firstLine := by decide
  have last : IsVisible lastLine := by decide
  have before : IsVisible margin := by decide
  refine List.forall_mem_cons.mpr ⟨first, List.forall_mem_append.mpr ⟨?_, List.forall_mem_singleton.mpr last⟩⟩
  exact List.forall_mem_map.mpr fun declaration inside => before.append (each declaration inside)

/-- The lines of a written layout are those that were put together. -/
theorem lines_wrap (nonempty : declarations ≠ [])
    (each : ∀ declaration ∈ declarations, IsVisible declaration) :
    Text.lines (wrap declarations) = linesOf declarations := by
  rw [wrap_eq_join nonempty, Text.lines]
  exact Text.splitOn_join newline (List.cons_ne_nil _ _) fun line inside =>
    (isVisible_linesOf each line inside).newline_not_mem

/-- The only control characters of a written layout are the newlines between its lines. -/
theorem eq_newline_of_mem_wrap (nonempty : declarations ≠ [])
    (each : ∀ declaration ∈ declarations, IsVisible declaration) {point : CodePoint}
    (inside : point ∈ wrap declarations) (control : point < space ∨ point = delete) : point = newline := by
  rw [wrap_eq_join nonempty] at inside
  rcases mem_of_mem_intercalate inside with between | ⟨line, listed, inner⟩
  · exact List.mem_singleton.mp between
  · obtain ⟨shown, other⟩ := isVisible_linesOf each line listed point inner
    rcases control with below | same
    · exact absurd shown (Nat.not_le.mpr below)
    · exact absurd same other

end Lines

/-- The line of a block, compiled alone, is the block. -/
theorem compile_line {block : Block} {text : Text} (written : writeBlock block = .ok text) :
    compile (margin ++ text) none = .ok [block.declared] := by
  have cut : Cut (margin ++ text) (blockLexemes block) := by
    have cuts : CutsInto (margin ++ text) (blockLexemes block) :=
      .blank (by decide) (.blank (by decide) (cutsInto_block written))
    exact cuts.cut
  have derived : IsDeclarations (blockLexemes block) [block.declared] := by
    simpa using isDeclarations_blockLexemes [block]
  have unwrapped : ¬ wrapperStart <+: blockLexemes block := by
    -- what opens behind the name of a written block is a parenthesis, not a brace
    rintro ⟨rest, same⟩
    cases (List.cons.inj (List.cons.inj same).2).1
  exact compile_eq_ok_iff.mpr ⟨_, cut, .plain unwrapped derived⟩

/-! ### Whole layouts -/

section Written

variable {blocks : List Block} {declarations : List Text}

theorem isVisible_of_forall₂
    (each : List.Forall₂ (fun block text => writeBlock block = .ok text) blocks declarations) :
    ∀ declaration ∈ declarations, IsVisible declaration := fun _ inside =>
  have ⟨_, _, written⟩ := exists_of_mem_mapM (mapM_eq_ok_iff.mpr each) inside
  isVisible_block written

/-- What is written for blocks is the wrapper around a declaration of each. -/
theorem exists_wrap_of_writeValues {text : Text}
    (written : Intake.writeValues (.list (blocks.map .block)) = .ok text) :
    ∃ declarations, List.Forall₂ (fun block text => writeBlock block = .ok text) blocks declarations ∧
      text = wrap declarations := by
  rw [Intake.writeValues_blocks, mapError_eq_ok_iff] at written
  obtain ⟨declarations, passed, rfl⟩ := write_eq_ok_iff.mp written
  exact ⟨declarations, mapM_eq_ok_iff.mp passed, rfl⟩

end Written

/-- **A written layout has a line for each block.** Behind a first line and in front of a last one, each
block has a line of its own, whatever its keys and values hold. Those between the lines are the only control
characters. A line alone is compiled to its block. -/
theorem writeValues_lines (blocks : List Block) (nonempty : blocks ≠ []) (text : Text)
    (written : Intake.writeValues (.list (blocks.map .block)) = .ok text) :
    (Text.lines text).length = blocks.length + 2 ∧
      (∀ point ∈ text, point < space ∨ point = delete → point = newline) ∧
      ∀ (index : Nat) (bound : index < blocks.length), ∃ line,
        (Text.lines text)[index + 1]? = some line ∧
          Intake.compileSource (.text line) .absent = .ok (.ok [blocks[index].declared]) := by
  obtain ⟨declarations, each, rfl⟩ := exists_wrap_of_writeValues written
  have sizes : blocks.length = declarations.length := each.length_eq
  have filled : declarations ≠ [] := by
    rw [← List.length_pos_iff, ← sizes]
    exact List.length_pos_iff.mpr nonempty
  have visible := isVisible_of_forall₂ each
  rw [lines_wrap filled visible]
  refine ⟨?_, fun point inside control => eq_newline_of_mem_wrap filled visible inside control, ?_⟩
  · simp [linesOf, sizes]
  · intro index bound
    have here : index < declarations.length := sizes ▸ bound
    refine ⟨margin ++ declarations[index], ?_, ?_⟩
    · rw [linesOf, List.getElem?_cons_succ, List.getElem?_append_left (by simpa using here),
        List.getElem?_map, List.getElem?_eq_getElem here]
      rfl
    · exact congrArg Except.ok (compile_line (each.get bound here))

/-- Blocks whose names, keys and values invite mistakes: a name like the wrapper, newlines and other control
characters in keys and values, and nothing at all. -/
def unrulyBlocks : List Block :=
  [{ typeId := "layout", config := .ofList [([newline], .text [newline, delete, 0x1B, 0x85])] },
   { typeId := "hero" },
   { typeId := "cta", config := .ofList [("size", .float (.zero true))] }]

theorem writeValues_lines_unruly : unrulyBlocks ≠ [] ∧ ∃ text,
    Intake.writeValues (.list (unrulyBlocks.map .block)) = .ok text ∧
      (Text.lines text).length = unrulyBlocks.length + 2 ∧
      (∀ point ∈ text, point < space ∨ point = delete → point = newline) ∧
      ∀ (index : Nat) (bound : index < unrulyBlocks.length), ∃ line,
        (Text.lines text)[index + 1]? = some line ∧
          Intake.compileSource (.text line) .absent = .ok (.ok [unrulyBlocks[index].declared]) := by
  have nonempty : unrulyBlocks ≠ [] := List.cons_ne_nil _ _
  have writable : ∀ block ∈ unrulyBlocks, ¬ block.Unwritable := by decide
  obtain ⟨text, written⟩ := (exists_write_iff unrulyBlocks).mpr writable
  have handed : Intake.writeValues (.list (unrulyBlocks.map .block)) = .ok text := by
    rw [Intake.writeValues_blocks, written]
    rfl
  exact ⟨nonempty, text, handed, writeValues_lines unrulyBlocks nonempty text handed⟩

end BlockPage.Layout
