/-
**Blanks and comments between tokens mean nothing.**

A segment looks at no more than the first code point behind it. In front of a token that code point ends
a word or a number just as a blank or a slash does, and it ends no line. So what is put in front of a
token leaves the segments before it as they are, and the token and all behind it are cut as before.

* `Filler`: blanks, and comments that are closed.
* `IsSegment.of_head`, `CutsBefore`: the beginning of a source, cut in front of what follows it.
* `split_of_cut`: every token stands behind such a beginning; `past_inj`: which is found by its position.
* `CutsBefore.insert`: a filler in front of a token.
* `compile_insert`: the same for compiled sources.
-/

import BlockPage.Layout.Compile
import BlockPage.Proofs.Layout.MovedPositions
import BlockPage.Proofs.Layout.Scanning

namespace BlockPage.Layout

open CodePoint

/-! ### Fillers -/

/-- Blanks, line comments with their newlines and closed comments, in any order. -/
inductive Filler : Text → Prop
  | nil : Filler []
  | blank {point : CodePoint} {rest : Text} : Text.isBlank point = true → Filler rest →
      Filler (point :: rest)
  | lineComment {content rest : Text} : newline ∉ content → Filler rest →
      Filler (slash :: slash :: (content ++ newline :: rest))
  | blockComment {content rest : Text} : ¬ [asterisk, slash] <:+: content → Filler rest →
      Filler (slash :: asterisk :: (content ++ [asterisk, slash] ++ rest))

section Filler

variable {filler following : Text}

/-- A filler has no lexemes. -/
theorem Filler.cut {lexemes : List Lexeme} (isFiller : Filler filler) (cut : Cut following lexemes) :
    Cut (filler ++ following) lexemes := by
  induction isFiller with
  | nil => exact cut
  | blank isBlank _ ih => exact .cons (.blank isBlank) ih
  | @lineComment content rest inside _ ih =>
    have commented : Cut (newline :: (rest ++ following)) lexemes :=
      .cons (.blank Text.isBlank_newline) ih
    have segment : IsSegment (slash :: slash :: content) (newline :: (rest ++ following)) none :=
      .lineComment inside (by simp [Stops])
    have cut := Cut.cons segment commented
    simpa using cut
  | @blockComment content rest inside _ ih =>
    have segment : IsSegment (slash :: asterisk :: (content ++ [asterisk, slash]))
        (rest ++ following) none := .blockComment inside
    have cut := Cut.cons segment ih
    simpa using cut

/-- A filler ends words and numbers. -/
theorem Filler.stops (isFiller : Filler filler) (nonempty : filler ≠ []) :
    Stops spoilsNumber (filler ++ following) := by
  have blank : ∀ point, Text.isBlank point = true → spoilsNumber point = false := by
    intro point isBlank
    cases continues : continuesIdentifier point with
    | true => exact absurd isBlank (by simp [(other_of_continuesIdentifier continues).1])
    | false =>
      rw [spoilsNumber, continues, Bool.false_or, beq_eq_false_iff_ne]
      rintro rfl
      cases isBlank
  cases isFiller with
  | nil => exact absurd rfl nonempty
  | blank isBlank _ => exact stops_cons_iff.mpr (blank _ isBlank)
  | lineComment _ _ => exact stops_cons_iff.mpr (by decide)
  | blockComment _ _ => exact stops_cons_iff.mpr (by decide)

end Filler

/-! ### The beginning of a source -/

section Beginning

variable {written following other : Text}

/-- Where a run stops depends on the next code point only. -/
theorem Stops.of_head {test : CodePoint → Bool} (stops : Stops test following)
    (same : other.head? = following.head?) : Stops test other := by
  unfold Stops
  rw [same]
  exact stops

/-- A segment looks at no more than the first code point behind it. -/
theorem IsSegment.of_head {lexeme : Option Lexeme} (segment : IsSegment written following lexeme)
    (same : other.head? = following.head?) : IsSegment written other lexeme := by
  cases segment with
  | blank isBlank => exact .blank isBlank
  | lineComment inside stops => exact .lineComment inside (stops.of_head same)
  | blockComment inside => exact .blockComment inside
  | mark listed => exact .mark listed
  | string quotes body => exact .string quotes body
  | keyword word listed => exact .keyword (word.of_stops (word.stops.of_head same)) listed
  | identifier word free => exact .identifier (word.of_stops (word.stops.of_head same)) free
  | number isWritten stops denotes => exact .number isWritten (stops.of_head same) denotes

/-- No lexeme begins with a newline. -/
theorem IsSegment.head_ne_newline {lexeme : Lexeme}
    (segment : IsSegment written following (some lexeme)) :
    ∃ first rest, written = first :: rest ∧ first ≠ newline := by
  obtain ⟨first, rest, same, read⟩ := segment_of_isSegment segment .start
  refine ⟨first, rest, same, ?_⟩
  rintro rfl
  cases congrArg Segment.lexeme read

/-- A segment in front of a lexeme is one in front of a filler, too. -/
theorem IsSegment.before_filler {lexeme : Option Lexeme} {filler : Text}
    (segment : IsSegment written following lexeme) (isFiller : Filler filler)
    (inLine : ∃ first rest, following = first :: rest ∧ first ≠ newline) :
    IsSegment written (filler ++ following) lexeme := by
  by_cases empty : filler = []
  · rw [empty]
    exact segment
  have stops : Stops spoilsNumber (filler ++ following) := isFiller.stops empty
  cases segment with
  | blank isBlank => exact .blank isBlank
  | lineComment inside ends =>
    -- what follows a line comment begins with a newline
    obtain ⟨first, rest, rfl, other⟩ := inLine
    exact absurd (stops_cons_iff.mp ends) (by simpa using other)
  | blockComment inside => exact .blockComment inside
  | mark listed => exact .mark listed
  | string quotes body => exact .string quotes body
  | keyword word listed => exact .keyword (word.of_stops stops.word) listed
  | identifier word free => exact .identifier (word.of_stops stops.word) free
  | number isWritten _ denotes => exact .number isWritten stops denotes

/-- The beginning of a source, cut into segments in front of what follows it. -/
inductive CutsBefore (following : Text) : Text → List Lexeme → Prop
  | nil : CutsBefore following [] []
  | cons {written rest : Text} {lexeme : Option Lexeme} {lexemes : List Lexeme} :
      IsSegment written (rest ++ following) lexeme → CutsBefore following rest lexemes →
      CutsBefore following (written ++ rest) (lexeme.toList ++ lexemes)

/-- A cut of the front, made before what follows, goes on with a cut of what follows. -/
theorem CutsBefore.cut {start : Text} {front behind : List Lexeme}
    (cuts : CutsBefore following start front) (cut : Cut following behind) :
    Cut (start ++ following) (front ++ behind) := by
  induction cuts with
  | nil => exact cut
  | cons segment _ ih =>
    rw [List.append_assoc, List.append_assoc]
    exact .cons segment ih

/-- The segments before a lexeme are segments before a filler, too. -/
theorem CutsBefore.insert {start filler : Text} {front : List Lexeme}
    (cuts : CutsBefore following start front) (isFiller : Filler filler)
    (inLine : ∃ first rest, following = first :: rest ∧ first ≠ newline) :
    CutsBefore (filler ++ following) start front := by
  induction cuts with
  | nil => exact .nil
  | @cons written rest lexeme lexemes segment _ ih =>
    refine .cons ?_ ih
    cases rest with
    | nil => exact segment.before_filler isFiller inLine
    | cons point rest => exact segment.of_head rfl

end Beginning

/-! ### Positions -/

/-- A text moves its position on, within the line or to a later one. -/
theorem past_after (text : Text) (position : Position) :
    position.line < (position.past text).line ∨
      (position.past text).line = position.line ∧
        (position.past text).column = position.column + text.length := by
  induction text generalizing position with
  | nil => exact .inr ⟨rfl, rfl⟩
  | cons point rest ih =>
    rw [Position.past_cons, List.length_cons]
    have behind := ih (position.after point)
    by_cases ends : point = newline
    · have after : (position.after point).line = position.line + 1 := by rw [Position.after, if_pos ends]
      omega
    · have after : position.after point = ⟨position.line, position.column + 1⟩ := if_neg ends
      rw [after] at behind ⊢
      dsimp only at behind
      omega

/-- Every code point moves the position. -/
theorem eq_nil_of_past {text : Text} {position : Position} (same : position.past text = position) :
    text = [] := by
  have moved := past_after text position
  rw [same] at moved
  exact List.length_eq_zero_iff.mp (by omega)

/-- Two beginnings of a source with the same end are the same. -/
theorem past_inj {source first rest second behind : Text} {position : Position}
    (one : source = first ++ rest) (other : source = second ++ behind)
    (same : position.past first = position.past second) : first = second := by
  rcases List.append_eq_append_iff.mp (one.symm.trans other) with ⟨more, rfl, _⟩ | ⟨more, rfl, _⟩
  · rw [Position.past_append] at same
    rw [eq_nil_of_past same.symm, List.append_nil]
  · rw [Position.past_append] at same
    rw [eq_nil_of_past same, List.append_nil]

/-! ### Tokens -/

/-- The token is the first lexeme of what follows a beginning of the source. -/
structure Splits (position : Position) (tokens : List Token) (token : Token) (start following : Text) :
    Prop where
  place : token.position = position.past start
  cuts : ∃ front behind, CutsBefore following start front ∧
    Cut following (token.lexeme :: behind) ∧
    tokens.map Token.lexeme = front ++ token.lexeme :: behind
  inLine : ∃ first rest, following = first :: rest ∧ first ≠ newline

/-- Every token stands behind a beginning of the source. -/
theorem split_of_cut {source : Text} {lexemes : List Lexeme} (cut : Cut source lexemes)
    (position : Position) :
    ∀ token ∈ (scanFrom position [] [] source).tokens, ∃ start following,
      source = start ++ following ∧
        Splits position (scanFrom position [] [] source).tokens token start following := by
  induction cut generalizing position with
  | nil =>
    rw [scanFrom_nil]
    exact fun _ inside => nomatch inside
  | @cons written rest lexeme others segment cut ih =>
    have lexemes := (scan_of_cut (.cons segment cut) position).2
    obtain ⟨point, points, rfl, read⟩ := segment_of_isSegment segment position
    rw [List.cons_append] at lexemes ⊢
    intro token inside
    have tokens := congrArg Scan.tokens (scanFrom_step position point (points ++ rest))
    rw [read] at tokens
    dsimp only at tokens
    rw [tokens, List.mem_append] at inside
    rcases inside with here | behind
    · cases lexeme with
      | none => cases here
      | some lexeme =>
        obtain rfl := List.mem_singleton.mp here
        refine ⟨[], _, rfl, rfl, ⟨[], others, .nil, .cons segment cut, lexemes⟩, ?_⟩
        obtain ⟨first, more, same, other⟩ := segment.head_ne_newline
        rw [← List.cons_append, same]
        exact ⟨first, _, rfl, other⟩
    · obtain ⟨start, following, rfl, place, ⟨front, behind, cuts, cutBehind, same⟩, inLine⟩ :=
        ih _ token behind
      refine ⟨(point :: points) ++ start, following, by simp, ?_, ?_, inLine⟩
      · rw [Position.past_append]
        exact place
      · refine ⟨_, behind, .cons segment cuts, cutBehind, ?_⟩
        rw [tokens, List.map_append, map_lexeme_toList, same, List.append_assoc]

/-! ### Inserting a filler -/

/-- Sources with the same lexemes are compiled to the same blocks, or have the same fault. -/
theorem compileScan_congr {scanned other : Scan} (clean : scanned.errors = [])
    (otherClean : other.errors = [])
    (same : scanned.tokens.map Token.lexeme = other.tokens.map Token.lexeme) :
    (∃ blocks, compileScan scanned = .ok blocks ∧ compileScan other = .ok blocks) ∨
      ∃ fault here there, compileScan scanned = .error [⟨fault, here⟩] ∧
        compileScan other = .error [⟨fault, there⟩] := by
  rcases readTokens_congr same with ⟨blocks, read, otherRead⟩ | ⟨fault, here, there, read, otherRead⟩
  · exact .inl ⟨blocks, compileScan_eq_ok_iff.mpr ⟨clean, read⟩,
      compileScan_eq_ok_iff.mpr ⟨otherClean, otherRead⟩⟩
  · exact .inr ⟨fault, here, there, compileScan_eq_error_iff.mpr (.inr ⟨clean, _, read, rfl⟩),
      compileScan_eq_error_iff.mpr (.inr ⟨otherClean, _, otherRead, rfl⟩)⟩

/-- **A filler in front of a token.** The position of a token is behind just one beginning of a source
without lexical faults. A filler there leaves it without lexical faults and all lexemes as they are. So
both sources are compiled to the same blocks or have the same fault. -/
theorem compile_insert (source : Text) (clean : (scan source).errors = []) (token : Token)
    (inside : token ∈ (scan source).tokens) :
    ∃ before after, (source = before ++ after ∧ token.position = Position.start.past before ∧
        ∀ other rest, source = other ++ rest → token.position = Position.start.past other →
          other = before) ∧
      ∀ filler, Filler filler →
        (scan (before ++ (filler ++ after))).errors = [] ∧
        (scan (before ++ (filler ++ after))).tokens.map Token.lexeme =
          (scan source).tokens.map Token.lexeme ∧
        ((∃ blocks, compile source none = .ok blocks ∧
            compile (before ++ (filler ++ after)) none = .ok blocks) ∨
          ∃ fault here there, compile source none = .error [⟨fault, here⟩] ∧
            compile (before ++ (filler ++ after)) none = .error [⟨fault, there⟩]) := by
  obtain ⟨before, after, split, place, ⟨front, behind, cuts, cut, lexemes⟩, inLine⟩ :=
    split_of_cut (cut_of_scan clean) .start token inside
  refine ⟨before, after, ⟨split, place, fun other rest otherSplit otherPlace =>
    past_inj otherSplit split (otherPlace.symm.trans place)⟩, fun filler isFiller => ?_⟩
  have filled : Cut (before ++ (filler ++ after)) ((scan source).tokens.map Token.lexeme) := by
    have cut := (cuts.insert isFiller inLine).cut (isFiller.cut cut)
    rw [← lexemes] at cut
    exact cut
  obtain ⟨filledClean, same⟩ := scan_of_cut filled .start
  exact ⟨filledClean, same, compileScan_congr clean filledClean same.symm⟩

/-- A source with one value. -/
def valueSource : Text := "hero(a: 1)"

/-- The token of the value. -/
def valueToken : Token := ⟨.integer 1, ⟨1, 9⟩⟩

theorem compile_insert_comments :
    (scan valueSource).errors = [] ∧ valueToken ∈ (scan valueSource).tokens ∧
      ((∃ blocks, compile valueSource none = .ok blocks ∧
          compile "hero(a: // one\n/* 2 */ 1)" none = .ok blocks) ∨
        ∃ fault here there, compile valueSource none = .error [⟨fault, here⟩] ∧
          compile "hero(a: // one\n/* 2 */ 1)" none = .error [⟨fault, there⟩]) := by
  have clean : (scan valueSource).errors = [] := by decide +kernel
  have inside : valueToken ∈ (scan valueSource).tokens := by decide +kernel
  have comments : Filler "// one\n/* 2 */ " := by
    have shown : Text.ofString "// one\n/* 2 */ " =
        slash :: slash :: (Text.ofString " one" ++ newline :: slash :: asterisk ::
          (Text.ofString " 2 " ++ [asterisk, slash] ++ [space])) := by
      decide
    rw [shown]
    exact .lineComment (by decide) (.blockComment (by decide) (.blank rfl .nil))
  obtain ⟨before, after, ⟨split, _, only⟩, insert⟩ :=
    compile_insert valueSource clean valueToken inside
  have same : valueSource = Text.ofString "hero(a: " ++ Text.ofString "1)" := by decide
  obtain rfl := only _ _ same (by decide)
  obtain rfl := List.append_cancel_left (same.symm.trans split)
  exact ⟨clean, inside, (insert _ comments).2.2⟩

end BlockPage.Layout
