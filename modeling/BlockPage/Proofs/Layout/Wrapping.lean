/-
**A wrapper around a source changes nothing.**

A newline ends every segment except an open string and an open comment, and a wrapper closes neither:
its end holds no quote and no slash. So a source is cut in a wrapper as it is cut alone, and the brace
that closes the wrapper is the last lexeme of all.

* `cut_segment_iff`: a source that begins with a segment.
* `clean_iff_cut`, `compile_eq_ok_iff`: when a source has no lexical faults, and what it means.
* `Cut.before_newline`, `cut_of_wrapperEnd`: a source in front of the end of a wrapper, in both directions.
* `cut_wrapped_iff`: a whole wrapped source.
* `compile_wrapped`: it has lexical faults just when the source has, and means the same blocks.
-/

import BlockPage.Proofs.Layout.Fillers
import BlockPage.Proofs.Layout.Normalization

namespace BlockPage.Layout

open CodePoint

/-! ### Beginnings and meanings of sources -/

section Sources

variable {source written following : Text} {lexemes : List Lexeme} {blocks : List Block}

/-- A segment at the start of a source is cut off in every cut of it. -/
theorem cut_segment_iff {lexeme : Option Lexeme} (segment : IsSegment written following lexeme) :
    Cut (written ++ following) lexemes ↔
      ∃ behind, lexemes = lexeme.toList ++ behind ∧ Cut following behind := by
  constructor
  · intro cut
    obtain ⟨clean, rfl⟩ := scan_of_cut cut .start
    obtain ⟨first, rest, rfl, read⟩ := segment_of_isSegment segment .start
    rw [List.cons_append, scanFrom_step, read] at clean ⊢
    exact ⟨_, by rw [List.map_append, map_lexeme_toList],
      cut_of_scan (List.append_eq_nil_iff.mp clean).2⟩
  · rintro ⟨behind, rfl, cut⟩
    exact .cons segment cut

/-- A source with a cut scans without errors, to the lexemes of the cut. -/
theorem lexemes_of_cut (cut : Cut source lexemes) :
    (scan source).errors = [] ∧ (scan source).tokens.map Token.lexeme = lexemes :=
  scan_of_cut cut .start

/-- A source without lexical faults can be cut. -/
theorem clean_iff_cut : (scan source).errors = [] ↔ ∃ lexemes, Cut source lexemes :=
  ⟨fun clean => ⟨_, cut_of_scan clean⟩, fun ⟨_, cut⟩ => (lexemes_of_cut cut).1⟩

/-- A source means blocks just when it can be cut into a document of them. -/
theorem compile_eq_ok_iff :
    compile source none = .ok blocks ↔ ∃ lexemes, Cut source lexemes ∧ IsDocument lexemes blocks := by
  refine ⟨document_of_compile, ?_⟩
  rintro ⟨lexemes, cut, document⟩
  obtain ⟨clean, same⟩ := lexemes_of_cut cut
  exact compileScan_eq_ok_iff.mpr ⟨clean, readTokens_of_document (by rw [same]; exact document)⟩

end Sources

/-! ### In front of a newline -/

section Newline

variable {written following source rest : Text} {lexeme : Option Lexeme} {lexemes behind : List Lexeme}

theorem IsSegment.at_end (segment : IsSegment written following lexeme) : IsSegment written [] lexeme := by
  cases segment with
  | blank isBlank => exact .blank isBlank
  | lineComment inside _ => exact .lineComment inside stops_nil
  | blockComment inside => exact .blockComment inside
  | mark listed => exact .mark listed
  | string quotes body => exact .string quotes body
  | keyword word listed => exact .keyword (word.of_stops stops_nil) listed
  | identifier word free => exact .identifier (word.of_stops stops_nil) free
  | number isWritten _ denotes => exact .number isWritten stops_nil denotes

/-- The last segment of a source is one in front of a newline, too. -/
theorem IsSegment.before_newline (segment : IsSegment written [] lexeme) (rest : Text) :
    IsSegment written (newline :: rest) lexeme := by
  cases segment with
  | blank isBlank => exact .blank isBlank
  | lineComment inside _ => exact .lineComment inside (stops_cons_iff.mpr (by decide))
  | blockComment inside => exact .blockComment inside
  | mark listed => exact .mark listed
  | string quotes body => exact .string quotes body
  | keyword word listed => exact .keyword (word.of_stops (stops_cons_iff.mpr (by decide))) listed
  | identifier word free => exact .identifier (word.of_stops (stops_cons_iff.mpr (by decide))) free
  | number isWritten _ denotes => exact .number isWritten (stops_cons_iff.mpr (by decide)) denotes

/-- What stands in front of the end of a source may stand in front of a newline. -/
theorem Cut.before_newline (cut : Cut source lexemes) (rest : Text) :
    CutsBefore (newline :: rest) source lexemes := by
  induction cut with
  | nil => exact .nil
  | @cons written following lexeme lexemes segment _ ih =>
    refine .cons ?_ ih
    cases following with
    | nil => exact segment.before_newline rest
    | cons point points => exact segment.of_head rfl

theorem newline_not_mem_number {numeral : Numeral} (isWritten : numeral.IsWritten) :
    newline ∉ numeral.text := by
  intro inside
  rcases isWritten.mem_text inside with digit | other
  · cases digit
  · exact absurd other (by decide)

/-- A segment over a newline is the newline itself, or ends with a quote or with the slash of a
comment. -/
theorem IsSegment.over_newline (segment : IsSegment written following lexeme)
    (inside : newline ∈ written) :
    written = [newline] ∨
      ∃ front last, written = front ++ [last] ∧ last ∈ [slash, quotationMark, apostrophe] := by
  have word {name : Text} (isWord : IsWord name following) : newline ∉ name :=
    fun inside => absurd (isWord.continues newline inside) (by decide)
  cases segment with
  | blank _ => exact .inl (by rw [List.mem_singleton.mp inside])
  | mark _ => exact .inl (by rw [List.mem_singleton.mp inside])
  | lineComment ended _ =>
    have inContent := (List.mem_cons.mp inside).resolve_left (by decide)
    exact absurd ((List.mem_cons.mp inContent).resolve_left (by decide)) ended
  | @blockComment content _ _ =>
    exact .inr ⟨slash :: asterisk :: (content ++ [asterisk]), slash, by simp, by decide⟩
  | @string quote body _ _ quotes _ =>
    refine .inr ⟨quote :: body, quote, rfl, ?_⟩
    rcases quotes with rfl | rfl <;> decide
  | keyword isWord _ => exact absurd inside (word isWord)
  | identifier isWord _ => exact absurd inside (word isWord)
  | number isWritten _ _ => exact absurd inside (newline_not_mem_number isWritten)

end Newline

/-! ### In a wrapper -/

/-- The end of a wrapper. -/
def wrapperEnd : Text := [newline, closeBrace]

/-- A source in a wrapper. -/
def wrapped (source : Text) : Text := Text.concat ["layout \x7b", source, wrapperEnd]

section Wrapper

variable {source : Text} {lexemes inside : List Lexeme} {blocks : List Block}

theorem cut_wrapperEnd : Cut wrapperEnd [.closing .brace] :=
  .cons (.blank (by decide)) (.cons (.mark (by decide)) .nil)

/-- No segment of the source runs into the end of the wrapper. -/
theorem no_overlap {written following more : Text} {lexeme : Option Lexeme}
    (segment : IsSegment written following lexeme) (split : written = source ++ more)
    (ends : wrapperEnd = more ++ following) (nonempty : source ≠ []) : more = [] := by
  by_contra overlaps
  obtain ⟨first, rest, rfl⟩ := List.exists_cons_of_ne_nil overlaps
  obtain ⟨rfl, -⟩ := List.cons.inj ends
  rcases segment.over_newline (by rw [split]; simp) with alone | ⟨front, last, same, closes⟩
  · rw [split, List.append_eq_singleton_iff] at alone
    exact nonempty (alone.resolve_right fun other => by simpa using other.2).1
  · -- the last code point of the segment is the newline or the brace of the wrapper
    have member : last ∈ newline :: rest := by
      have tail := congrArg List.getLast? (split.symm.trans same)
      rw [List.getLast?_append_cons, List.getLast?_concat] at tail
      exact List.mem_of_getLast? tail
    have listed : last ∈ wrapperEnd := by
      rw [ends]
      exact List.mem_append_left _ member
    have table : ∀ point ∈ wrapperEnd, point ∉ [slash, quotationMark, apostrophe] := by decide
    exact table last listed closes

/-- A cut of a source in front of the end of a wrapper cuts the source. -/
theorem cut_of_wrapperEnd {text : Text} (cut : Cut text lexemes) :
    ∀ {source : Text}, text = source ++ wrapperEnd →
      ∃ inside, Cut source inside ∧ lexemes = inside ++ [.closing .brace] := by
  induction cut with
  | nil => exact fun same => by simp [wrapperEnd] at same
  | @cons written following lexeme lexemes segment cut ih =>
    intro source same
    by_cases empty : source = []
    · have whole := scan_of_cut (.cons segment cut) .start
      rw [same, empty] at whole
      exact ⟨[], by rw [empty]; exact .nil,
        whole.2.symm.trans (scan_of_cut cut_wrapperEnd .start).2⟩
    obtain ⟨more, rfl, behind⟩ : ∃ more, source = written ++ more ∧ following = more ++ wrapperEnd := by
      rcases List.append_eq_append_iff.mp same with ⟨more, found, behind⟩ | ⟨more, found, ends⟩
      · exact ⟨more, found, behind⟩
      · obtain rfl := no_overlap segment found ends empty
        rw [List.append_nil] at found
        exact ⟨[], by rw [found, List.append_nil], ends.symm⟩
    obtain ⟨inside, cutMore, rfl⟩ := ih behind
    refine ⟨lexeme.toList ++ inside, .cons ?_ cutMore, by rw [List.append_assoc]⟩
    cases more with
    | nil => exact segment.at_end
    | cons point points => exact segment.of_head (by rw [behind]; rfl)

/-- **A wrapped source** is cut like the source, with the lexemes of the wrapper around it. -/
theorem cut_wrapped_iff :
    Cut (wrapped source) lexemes ↔
      ∃ inside, Cut source inside ∧ lexemes = wrapperStart ++ (inside ++ [.closing .brace]) := by
  have shown : wrapped source = layoutWord ++ ([space] ++ ([openBrace] ++ (source ++ wrapperEnd))) := by
    rw [wrapped, concat_cons, concat_cons, concat_singleton]
    rfl
  have name : IsSegment layoutWord ([space] ++ ([openBrace] ++ (source ++ wrapperEnd)))
      (some (.identifier layoutWord)) := by
    obtain ⟨word, free⟩ := isIdentifier_iff.mp (show isIdentifier layoutWord = true by decide)
    exact .identifier (word.of_stops (stops_cons_iff.mpr (by decide))) free
  have blank : IsSegment [space] ([openBrace] ++ (source ++ wrapperEnd)) none := .blank (by decide)
  have brace : IsSegment [openBrace] (source ++ wrapperEnd) (some (.opening .brace)) :=
    .mark (by decide)
  rw [shown, cut_segment_iff name]
  simp only [cut_segment_iff blank, cut_segment_iff brace]
  constructor
  · rintro ⟨_, rfl, _, rfl, _, rfl, cut⟩
    obtain ⟨inside, cutSource, rfl⟩ := cut_of_wrapperEnd cut rfl
    exact ⟨inside, cutSource, rfl⟩
  · rintro ⟨inside, cut, rfl⟩
    exact ⟨_, rfl, _, rfl, _, rfl, (cut.before_newline [closeBrace]).cut cut_wrapperEnd⟩

/-- Between the wrapper and its brace just declarations are read. -/
theorem isDocument_wrapped_iff :
    IsDocument (wrapperStart ++ (inside ++ [.closing .brace])) blocks ↔
      IsDeclarations inside blocks := by
  refine ⟨fun document => ?_, .wrapped⟩
  generalize same : wrapperStart ++ (inside ++ [.closing .brace]) = written at document
  cases document with
  | wrapped declarations =>
    have tail := List.append_cancel_left same
    rwa [List.append_cancel_right tail]
  | plain unwrapped _ => exact absurd ⟨_, same⟩ unwrapped

/-- So they are in a document that does not begin with the wrapper. -/
theorem isDocument_iff (unwrapped : ¬ wrapperStart <+: inside) :
    IsDocument inside blocks ↔ IsDeclarations inside blocks := by
  refine ⟨fun document => ?_, .plain unwrapped⟩
  cases document with
  | wrapped _ => exact absurd (List.prefix_append _ _) unwrapped
  | plain _ declarations => exact declarations

end Wrapper

/-- **A wrapper is transparent.** A source that does not begin with a wrapper has lexical faults just
when it has them inside one, and means the same blocks there. So no open string, comment or body and no
stray bracket is mended by the newline and the brace that end a wrapper. -/
theorem compile_wrapped (source : Text)
    (unwrapped : ¬ wrapperStart <+: (scan source).tokens.map Token.lexeme) :
    ((scan (wrapped source)).errors = [] ↔ (scan source).errors = []) ∧
      ∀ blocks, compile (wrapped source) none = .ok blocks ↔ compile source none = .ok blocks := by
  constructor
  · rw [clean_iff_cut, clean_iff_cut]
    constructor
    · rintro ⟨_, cut⟩
      obtain ⟨inside, cut, _⟩ := cut_wrapped_iff.mp cut
      exact ⟨inside, cut⟩
    · rintro ⟨inside, cut⟩
      exact ⟨_, cut_wrapped_iff.mpr ⟨inside, cut, rfl⟩⟩
  · intro blocks
    have plain : ∀ inside, Cut source inside → ¬ wrapperStart <+: inside := by
      intro inside cut
      rwa [← (lexemes_of_cut cut).2]
    rw [compile_eq_ok_iff, compile_eq_ok_iff]
    constructor
    · rintro ⟨_, wrappedCut, document⟩
      obtain ⟨inside, cut, rfl⟩ := cut_wrapped_iff.mp wrappedCut
      exact ⟨inside, cut, (isDocument_iff (plain inside cut)).mpr (isDocument_wrapped_iff.mp document)⟩
    · rintro ⟨inside, cut, document⟩
      exact ⟨_, cut_wrapped_iff.mpr ⟨inside, cut, rfl⟩,
        isDocument_wrapped_iff.mpr ((isDocument_iff (plain inside cut)).mp document)⟩

/-- A source that ends in a line comment with an open brace in it. -/
def commentedSource : Text := "hero(title: 'a \x7d') faq // \x7b"

theorem compile_wrapped_commented :
    ¬ wrapperStart <+: (scan commentedSource).tokens.map Token.lexeme ∧
      ((scan (wrapped commentedSource)).errors = [] ↔ (scan commentedSource).errors = []) ∧
      ∀ blocks, compile (wrapped commentedSource) none = .ok blocks ↔
        compile commentedSource none = .ok blocks := by
  have unwrapped : ¬ wrapperStart <+: (scan commentedSource).tokens.map Token.lexeme := by
    decide +kernel
  exact ⟨unwrapped, compile_wrapped commentedSource unwrapped⟩

end BlockPage.Layout
