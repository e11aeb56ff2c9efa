/-
**The written form of a layout is cut into its lexemes.**

* `CutsInto`: a text is cut into lexemes in front of anything that spoils no number.
* `bodyOf_quotes`: a text between quotation marks means itself.
* `WritesScalar`, `writeEntry_eq_ok_iff`, `writeBlock_eq_ok_iff`, `write_eq_ok_iff`: what is written for each
  part.
* `cutsInto_scalar`, `cutsInto_entry`, `cutsInto_block`: the lexemes that this is cut into.
* `cut_wrap`: a whole written layout.
-/

import BlockPage.Layout.Printing
import BlockPage.Proofs.Layout.Grammar
import BlockPage.Proofs.Layout.Scanning
import BlockPage.Proofs.Layout.WrittenNumbers
import BlockPage.Proofs.Traversal

namespace BlockPage.Layout

open CodePoint Number

/-- The text is cut into the lexemes, whatever follows, unless that spoils a number. -/
def CutsInto (text : Text) (lexemes : List Lexeme) : Prop :=
  ∀ (following : Text) (behind : List Lexeme), Stops spoilsNumber following → Cut following behind →
    Cut (text ++ following) (lexemes ++ behind)

/-- The text spoils no number in front of it, whatever follows it. -/
def Separates (text : Text) : Prop := ∃ first rest, text = first :: rest ∧ spoilsNumber first = false

/-- What separates ends a number and a word. -/
theorem Separates.stops {text : Text} (separates : Separates text) (following : Text) :
    Stops spoilsNumber (text ++ following) := by
  obtain ⟨first, rest, rfl, harmless⟩ := separates
  exact stops_cons_iff.mpr harmless

/-! ### One text behind the other -/

theorem concat_cons (first second : Text) (rest : List Text) :
    Text.concat (first :: second :: rest) = first ++ Text.concat (second :: rest) := rfl

theorem concat_singleton (text : Text) : Text.concat [text] = text := List.append_nil text

section Behind

variable {text rest : Text} {lexemes others : List Lexeme}

/-- Two texts are cut one after the other when the second separates them. -/
theorem CutsInto.append (here : CutsInto text lexemes) (separates : Separates rest)
    (behind : CutsInto rest others) : CutsInto (text ++ rest) (lexemes ++ others) := by
  intro following more stops cut
  rw [List.append_assoc, List.append_assoc]
  exact here _ _ (separates.stops following) (behind _ _ stops cut)

/-- A segment that ends by itself. -/
theorem CutsInto.segment {written : Text} {lexeme : Option Lexeme}
    (isSegment : ∀ following, IsSegment written following lexeme) (behind : CutsInto rest others) :
    CutsInto (written ++ rest) (lexeme.toList ++ others) := by
  intro following more stops cut
  rw [List.append_assoc, List.append_assoc]
  exact .cons (isSegment _) (behind _ _ stops cut)

/-- A mark needs no separation. -/
theorem CutsInto.mark {point : CodePoint} {lexeme : Lexeme} (listed : (point, lexeme) ∈ marks)
    (behind : CutsInto rest others) : CutsInto (point :: rest) (lexeme :: others) :=
  CutsInto.segment (fun _ => .mark listed) behind

theorem CutsInto.blank {point : CodePoint} (isBlank : Text.isBlank point = true)
    (behind : CutsInto rest others) : CutsInto (point :: rest) others :=
  CutsInto.segment (fun _ => .blank isBlank) behind

theorem cutsInto_nil : CutsInto [] [] := fun _ _ _ cut => cut

theorem cutsInto_mark {point : CodePoint} {lexeme : Lexeme} (listed : (point, lexeme) ∈ marks) :
    CutsInto [point] [lexeme] :=
  cutsInto_nil.mark listed

/-- A segment that is the only one. -/
theorem cutsInto_segment {lexeme : Lexeme}
    (isSegment : ∀ following, Stops spoilsNumber following → IsSegment text following (some lexeme)) :
    CutsInto text [lexeme] :=
  fun following _ stops cut => .cons (isSegment following stops) cut

/-- Texts with a separator between them. -/
theorem cutsInto_join {separator : Text} {between : List Lexeme} {texts : List Text}
    {rows : List (List Lexeme)}
    (separated : ∀ {rest : Text} {others : List Lexeme}, CutsInto rest others →
      CutsInto (separator ++ rest) (between ++ others))
    (separates : Separates separator) (each : List.Forall₂ CutsInto texts rows) :
    CutsInto (Text.join separator texts) (between.intercalate rows) := by
  unfold Text.join
  induction each with
  | nil => exact cutsInto_nil
  | @cons text row texts rows here behind ih =>
    cases behind with
    | nil =>
      rw [List.intercalate_singleton, List.intercalate_singleton]
      exact here
    | cons =>
      rw [List.intercalate_cons_cons, List.intercalate_cons_cons, List.append_assoc, List.append_assoc]
      -- the separator keeps the segments of the first text from running into those behind it
      obtain ⟨first, rest, rfl, harmless⟩ := separates
      exact here.append ⟨first, _, rfl, harmless⟩ (separated ih)

end Behind

/-! ### Texts -/

section Quotes

variable {quote : CodePoint} {body decoded : Text}

/-- A code point of the table is written by its letter. -/
theorem StringBody.escaped {point : CodePoint} (letter : CodePoint) {shown : Text}
    (escape : shown = [backslash, letter]) (listed : (letter, point) ∈ escapes)
    (behind : StringBody quote body decoded) :
    StringBody quote (shown ++ body) (point :: decoded) := by
  rw [escape]
  exact .escape listed behind

/-- The code points that are written by their numbers. -/
theorem hexadecimal_control : ∀ point < 0x80, (point < 0x20 || point = delete) = true →
    (Text.hexadecimal 4 point).length = 4 ∧
      (∀ digit ∈ Text.hexadecimal 4 point, isHexDigit digit = true) ∧
      ofDigits 16 ((Text.hexadecimal 4 point).map hexValue) = point := by
  decide

/-- A control character is written by its four digits. -/
theorem StringBody.control {point : CodePoint} (control : (point < 0x20 || point = delete) = true)
    (behind : StringBody quote body decoded) :
    StringBody quote (Text.ofString "\\u" ++ Text.hexadecimal 4 point ++ body) (point :: decoded) := by
  have small : point < 0x80 := by
    rcases Bool.or_eq_true _ _ ▸ control with below | same
    · exact Nat.lt_trans (of_decide_eq_true below) (by decide)
    · rw [of_decide_eq_true same]
      decide
  have escape : Text.ofString "\\u" = [backslash, letterU] := by decide
  obtain ⟨four, isHex, value⟩ := hexadecimal_control point small control
  generalize Text.hexadecimal 4 point = digits at four isHex value
  match digits, four with
  | [first, second, third, fourth], _ =>
    rw [escape, ← value]
    exact .unicode isHex behind

/-- **Whatever the code point is written as is read back as it.** -/
theorem StringBody.quotePoint (point : CodePoint) (behind : StringBody quotationMark body decoded) :
    StringBody quotationMark (Layout.quotePoint point ++ body) (point :: decoded) := by
  unfold Layout.quotePoint
  split_ifs with isBackslash isQuote isNewline isReturn isTab isNull control
  · rw [isBackslash]
    exact .escaped backslash (by decide) (by decide) behind
  · rw [isQuote]
    exact .escaped quotationMark (by decide) (by decide) behind
  · rw [isNewline]
    exact .escaped 0x6E (by decide) (by decide) behind
  · rw [isReturn]
    exact .escaped 0x72 (by decide) (by decide) behind
  · rw [isTab]
    exact .escaped 0x74 (by decide) (by decide) behind
  · rw [isNull]
    exact .escaped CodePoint.zero (by decide) (by decide) behind
  · exact .control control behind
  · exact .plain isQuote isBackslash behind

/-- **A text between quotation marks means itself**, whatever code points it has. -/
theorem bodyOf_quotes (text : Text) :
    StringBody quotationMark (text.flatMap Layout.quotePoint) text := by
  induction text with
  | nil => exact .nil
  | cons point rest ih => exact .quotePoint point ih

end Quotes

theorem cutsInto_quote (text : Text) : CutsInto (quote text) [.string text] := by
  refine cutsInto_segment fun _ _ => ?_
  show IsSegment (quotationMark :: (_ ++ [quotationMark])) _ _
  exact .string (.inl rfl) (bodyOf_quotes text)

/-! ### Words and numbers -/

theorem cutsInto_identifier {name : Text} (isName : isIdentifier name = true) :
    CutsInto name [.identifier name] := by
  obtain ⟨word, free⟩ := isIdentifier_iff.mp isName
  exact cutsInto_segment fun _ stops => .identifier (word.of_stops stops.word) free

theorem cutsInto_keyword {name : Text} {value : Bool} (listed : (name, value) ∈ keywords) :
    CutsInto name [.boolean value] := by
  refine cutsInto_segment fun following stops => .keyword ⟨?_, ?_, stops.word⟩ listed
  · simp only [keywords, List.mem_cons, List.not_mem_nil, or_false, Prod.mk.injEq] at listed
    rcases listed with ⟨rfl, -⟩ | ⟨rfl, -⟩
    · exact ⟨0x74, Text.ofString "rue", by decide, by decide⟩
    · exact ⟨0x66, Text.ofString "alse", by decide, by decide⟩
  · simp only [keywords, List.mem_cons, List.not_mem_nil, or_false, Prod.mk.injEq] at listed
    rcases listed with ⟨rfl, -⟩ | ⟨rfl, -⟩ <;> decide

theorem cutsInto_number {text : Text} {lexeme : Lexeme} (writes : Numeral.Writes text lexeme) :
    CutsInto text [lexeme] := by
  obtain ⟨numeral, isWritten, denotes, rfl⟩ := writes
  exact cutsInto_segment fun _ stops => .number isWritten stops denotes

/-! ### The parts of a layout -/

/-- The lexeme of a written key. -/
def keyLexeme (key : Text) : Lexeme := if isIdentifier key then .identifier key else .string key

/-- The lexeme of a written value. -/
def scalarLexeme : Scalar → Lexeme
  | .boolean value => .boolean value
  | .integer value => .integer value
  | .float value => .float value
  | .text value => .string value

/-- The lexemes of a written entry. -/
def entryLexemes (entry : Text × Scalar) : List Lexeme :=
  [keyLexeme entry.1, .colon, scalarLexeme entry.2]

/-- The lexemes of a written block. -/
def blockLexemes (block : Block) : List Lexeme :=
  .identifier block.typeId :: .opening .parenthesis ::
    ([Lexeme.comma].intercalate (block.config.entries.map entryLexemes) ++ [.closing .parenthesis])

/-- How a value is written. -/
inductive WritesScalar : Scalar → Text → Prop
  | boolean (value : Bool) : WritesScalar (.boolean value) (if value then "true" else "false")
  | number {value : Scalar} {text : Text} : Numeral.Writes text (scalarLexeme value) →
      WritesScalar value text
  | text (value : Text) : WritesScalar (.text value) (quote value)

theorem writes_of_writeScalar {key text : Text} {value : Scalar}
    (written : writeScalar key value = .ok text) : WritesScalar value text := by
  cases value with
  | boolean value =>
    cases written
    exact .boolean value
  | integer value =>
    dsimp only [writeScalar] at written
    split at written
    · rename_i shown found
      cases written
      exact .number (writes_integer found)
    · cases written
  | float value =>
    dsimp only [writeScalar] at written
    split at written
    · rename_i finite
      cases written
      exact .number (writes_float finite)
    · cases written
  | text value =>
    cases written
    exact .text value

/-- A written entry is its key, a colon and its value. -/
theorem writeEntry_eq_ok_iff {entry : Text × Scalar} {text : Text} : writeEntry entry = .ok text ↔
    ∃ value, writeScalar entry.1 entry.2 = .ok value ∧
      Text.concat [writeKey entry.1, ": ", value] = text := by
  rw [writeEntry, bind_eq_ok_iff]
  simp only [pure, Except.pure, Except.ok.injEq]

/-- A written block is the declaration of its entries, all of which were written. -/
theorem writeBlock_eq_ok_iff {block : Block} {text : Text} : writeBlock block = .ok text ↔
    isIdentifier block.typeId = true ∧ ∃ entries, block.config.entries.mapM writeEntry = .ok entries ∧
      writeDeclaration block.typeId entries = text := by
  unfold writeBlock
  split
  · rename_i isName
    rw [bind_eq_ok_iff, and_iff_right isName]
    simp only [pure, Except.pure, Except.ok.injEq]
  · rename_i other
    exact iff_of_false (fun written => nomatch written) fun ⟨isName, _⟩ => other isName

/-- A written layout is its declarations inside the wrapper. -/
theorem write_eq_ok_iff {blocks : List Block} {source : Text} : write blocks = .ok source ↔
    ∃ declarations, blocks.mapM writeBlock = .ok declarations ∧ wrap declarations = source := by
  rw [write, bind_eq_ok_iff]
  simp only [pure, Except.pure, Except.ok.injEq]

/-- A written key is cut into its lexeme: an identifier, or a string where it is none. -/
theorem cutsInto_key (key : Text) : CutsInto (writeKey key) [keyLexeme key] := by
  unfold writeKey keyLexeme
  by_cases isName : isIdentifier key = true
  · rw [if_pos isName, if_pos isName]
    exact cutsInto_identifier isName
  · rw [if_neg isName, if_neg isName]
    exact cutsInto_quote key

theorem cutsInto_scalar {key text : Text} {value : Scalar}
    (written : writeScalar key value = .ok text) : CutsInto text [scalarLexeme value] := by
  cases writes_of_writeScalar written with
  | boolean value => cases value <;> exact cutsInto_keyword (by decide)
  | number writes => exact cutsInto_number writes
  | text value => exact cutsInto_quote value

theorem cutsInto_entry {entry : Text × Scalar} {text : Text}
    (written : writeEntry entry = .ok text) : CutsInto text (entryLexemes entry) := by
  obtain ⟨value, shown, rfl⟩ := writeEntry_eq_ok_iff.mp written
  have between : Text.ofString ": " = [colon, space] := by decide
  rw [concat_cons, concat_cons, concat_singleton, between]
  exact (cutsInto_key entry.1).append ⟨_, _, rfl, by decide⟩
    (.mark (by decide) (.blank (by decide) (cutsInto_scalar shown)))

/-- A written block is cut into the lexemes of its declaration. -/
theorem cutsInto_block {block : Block} {text : Text} (written : writeBlock block = .ok text) :
    CutsInto text (blockLexemes block) := by
  obtain ⟨isName, texts, passed, rfl⟩ := writeBlock_eq_ok_iff.mp written
  have each : List.Forall₂ CutsInto texts (block.config.entries.map entryLexemes) :=
    List.forall₂_map_right_iff.mpr ((mapM_eq_ok_iff.mp passed).flip.imp fun _ _ => cutsInto_entry)
  have comma : Text.ofString ", " = [CodePoint.comma, space] := by decide
  have joined : CutsInto (Text.join ", " texts)
      ([Lexeme.comma].intercalate (block.config.entries.map entryLexemes)) := by
    rw [comma]
    exact cutsInto_join (fun rest => .mark (by decide) (.blank (by decide) rest))
      ⟨_, _, rfl, by decide⟩ each
  have opening : Text.ofString "(" = [openParenthesis] := by decide
  have closing : Text.ofString ")" = [closeParenthesis] := by decide
  rw [writeDeclaration, concat_cons, concat_cons, concat_cons, concat_singleton, opening, closing]
  exact (cutsInto_identifier isName).append ⟨_, _, rfl, by decide⟩
    (.mark (by decide) (joined.append ⟨_, _, rfl, by decide⟩ (cutsInto_mark (by decide))))

/-! ### The wrapper -/

theorem intercalate_nothing (rows : List (List Lexeme)) : [].intercalate rows = rows.flatten := by
  induction rows with
  | nil => rfl
  | cons row rows ih =>
    cases rows with
    | nil => rw [List.intercalate_singleton, List.flatten_singleton]
    | cons => rw [List.intercalate_cons_cons, ih, List.append_nil]; rfl

/-- What is cut before anything that separates is cut at the end of the text. -/
theorem CutsInto.cut {text : Text} {lexemes : List Lexeme} (cuts : CutsInto text lexemes) :
    Cut text lexemes := by
  have alone := cuts [] [] stops_nil .nil
  rwa [List.append_nil, List.append_nil] at alone

/-- The start of a wrapper in front of its inside. -/
theorem cut_wrapper {inside : Text} {lexemes : List Lexeme} (cuts : CutsInto inside lexemes) :
    Cut (layoutWord ++ (Text.ofString " \x7b\n" ++ inside)) (wrapperStart ++ lexemes) := by
  have opening : Text.ofString " \x7b\n" = [space, openBrace, newline] := by decide
  have word : isIdentifier layoutWord = true := by decide
  rw [opening]
  exact CutsInto.cut ((cutsInto_identifier word).append ⟨_, _, rfl, by decide⟩
    (.blank (by decide) (.mark (by decide) (.blank (by decide) cuts))))

/-- The remark in a wrapper without blocks. -/
theorem cutsInto_remark :
    CutsInto (margin ++ Text.ofString "// Add blocks here\n\x7d") [.closing .brace] := by
  have shown : margin ++ Text.ofString "// Add blocks here\n\x7d" =
      space :: space ::
        (slash :: slash :: Text.ofString " Add blocks here" ++ [newline, closeBrace]) := by
    decide
  have finish : CutsInto [newline, closeBrace] [.closing .brace] :=
    .blank (by decide) (cutsInto_mark (by decide))
  rw [shown]
  refine CutsInto.blank (by decide) (.blank (by decide) fun following behind stops cut => ?_)
  rw [List.append_assoc]
  exact .cons (.lineComment (by decide) (stops_cons_iff.mpr rfl)) (finish following behind stops cut)

/-- Written declarations in their wrapper. -/
theorem cut_wrap {texts : List Text} {rows : List (List Lexeme)}
    (each : List.Forall₂ CutsInto texts rows) :
    Cut (wrap texts) (wrapperStart ++ (rows.flatten ++ [.closing .brace])) := by
  cases each with
  | nil =>
    rw [wrap, List.isEmpty_nil, if_pos rfl, concat_cons, concat_cons, concat_cons, concat_singleton]
    exact cut_wrapper cutsInto_remark
  | @cons text row texts rows here behind =>
    have lines : List.Forall₂ CutsInto ((text :: texts).map (margin ++ ·)) (row :: rows) :=
      List.forall₂_map_left_iff.mpr ((List.Forall₂.cons here behind).imp fun _ _ cuts =>
        .blank (by decide) (.blank (by decide) cuts))
    have separated : ∀ {rest : Text} {others : List Lexeme}, CutsInto rest others →
        CutsInto ([newline] ++ rest) ([] ++ others) := fun cuts => .blank (by decide) cuts
    have joined := cutsInto_join separated ⟨_, _, rfl, by decide⟩ lines
    rw [intercalate_nothing] at joined
    have finish : Text.ofString "\n\x7d" = [newline, closeBrace] := by decide
    rw [wrap, List.isEmpty_cons, if_neg (by decide), concat_cons, concat_cons, concat_cons,
      concat_singleton, finish]
    exact cut_wrapper (joined.append ⟨_, _, rfl, by decide⟩
      (.blank (by decide) (cutsInto_mark (by decide))))

end BlockPage.Layout
