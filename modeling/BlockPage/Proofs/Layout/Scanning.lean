/-
**Scanning is exact for the lexical grammar.**

The first code points of a segment decide which kind it is, and each kind is scanned as the grammar has
it. So a source is scanned without faults just when it can be cut into segments, and then its tokens
are the lexemes of the segments.

* `segment_plain`: the segments that begin with a letter, a digit, an underscore or a hyphen.
* `segment_of_isSegment`, `isSegment_of_segment`: one segment.
* `scan_of_cut`, `cut_of_scan`: the rest of a source; `scan_exact`: a whole source.
-/

import BlockPage.Proofs.Layout.Numerals
import BlockPage.Proofs.Layout.Strings

namespace BlockPage.Layout

open CodePoint Number

/-! ### Words -/

section Words

theorem keyword?_eq_some_iff {name : Text} {value : Bool} :
    keyword? name = some value ↔ (name, value) ∈ keywords := by
  simp only [keywords, List.mem_cons, Prod.mk.injEq, List.not_mem_nil, or_false]
  unfold keyword?
  constructor
  · intro found
    split_ifs at found with yes no
    · cases found
      exact .inl ⟨yes, rfl⟩
    · cases found
      exact .inr ⟨no, rfl⟩
  · rintro (⟨rfl, rfl⟩ | ⟨rfl, rfl⟩)
    · rw [if_pos rfl]
    · rw [if_neg (by decide), if_pos rfl]

theorem keyword?_eq_none_iff {name : Text} :
    keyword? name = none ↔ name ∉ keywords.map Prod.fst := by
  rw [Option.eq_none_iff_forall_ne_some]
  simp only [ne_eq, keyword?_eq_some_iff, List.mem_map, Prod.exists, exists_and_right,
    exists_eq_right, not_exists]

/-- What ends a number ends a word. -/
theorem Stops.word {following : Text} (stops : Stops spoilsNumber following) :
    Stops continuesIdentifier following :=
  stops.mono fun point continues => by rw [spoilsNumber, continues]; rfl

/-- A word is one in front of anything that does not continue it. -/
theorem IsWord.of_stops {name following other : Text} (word : IsWord name following)
    (stops : Stops continuesIdentifier other) : IsWord name other :=
  ⟨word.starts, word.continues, stops⟩

/-- Identifiers are the words that are no truth values. -/
theorem isIdentifier_iff {name : Text} :
    isIdentifier name = true ↔ IsWord name [] ∧ name ∉ keywords.map Prod.fst := by
  rw [← keyword?_eq_none_iff, ← Option.isNone_iff_eq_none]
  constructor
  · intro isName
    cases name with
    | nil => cases isName
    | cons first rest =>
      obtain ⟨word, free⟩ := Bool.and_eq_true _ _ ▸ isName
      obtain ⟨starts, continues⟩ := Bool.and_eq_true _ _ ▸ word
      refine ⟨⟨⟨first, rest, rfl, starts⟩, ?_, stops_nil⟩, free⟩
      intro point inside
      cases inside with
      | head => rw [continuesIdentifier, starts]; rfl
      | tail _ inside => exact List.all_eq_true.mp continues point inside
  · rintro ⟨word, free⟩
    obtain ⟨first, rest, rfl, starts⟩ := word.starts
    have continues : rest.all continuesIdentifier = true :=
      List.all_eq_true.mpr fun point inside => word.continues point (.tail _ inside)
    rw [isIdentifier, starts, continues, free]
    rfl

/-- Letters, digits, the underscore and the hyphen are characters of ASCII. -/
theorem lt_of_continuesIdentifier {point : CodePoint} (inside : continuesIdentifier point = true) :
    point < 0x7B := by
  simp only [continuesIdentifier, startsIdentifier, isLetter, isDigit, Bool.or_eq_true,
    Bool.and_eq_true, decide_eq_true_eq, beq_iff_eq] at inside
  rcases inside with ((rfl | ⟨-, small⟩ | ⟨-, small⟩) | rfl) | ⟨-, small⟩
  · decide
  · exact Nat.lt_of_le_of_lt small (by decide)
  · exact Nat.lt_of_le_of_lt small (by decide)
  · decide
  · exact Nat.lt_of_le_of_lt small (by decide)

/-- No blank, comment, mark or string begins like a word or a number. -/
theorem other_of_continuesIdentifier {point : CodePoint}
    (inside : continuesIdentifier point = true) :
    Text.isBlank point = false ∧ point ≠ slash ∧ punctuation? point = none ∧
      point ≠ quotationMark ∧ point ≠ apostrophe := by
  have table : ∀ point < 0x7B, continuesIdentifier point = true →
      Text.isBlank point = false ∧ point ≠ slash ∧ punctuation? point = none ∧
        point ≠ quotationMark ∧ point ≠ apostrophe := by
    decide
  exact table point (lt_of_continuesIdentifier inside) inside

/-- No number begins like a word. -/
theorem number_of_startsIdentifier {point : CodePoint} (starts : startsIdentifier point = true) :
    isDigit point = false ∧ point ≠ hyphen := by
  have table : ∀ point < 0x7B, startsIdentifier point = true →
      isDigit point = false ∧ point ≠ hyphen := by
    decide
  exact table point (lt_of_continuesIdentifier (by simp [continuesIdentifier, starts])) starts

end Words

/-! ### Segments -/

section Segments

theorem punctuation?_eq_some_iff {point : CodePoint} {lexeme : Lexeme} :
    punctuation? point = some lexeme ↔ (point, lexeme) ∈ marks := by
  constructor
  · intro found
    unfold punctuation? at found
    split_ifs at found with same same same same same same <;> cases found <;> subst same <;> decide
  · intro listed
    simp only [marks, List.mem_cons, Prod.mk.injEq, List.not_mem_nil, or_false] at listed
    rcases listed with ⟨rfl, rfl⟩ | ⟨rfl, rfl⟩ | ⟨rfl, rfl⟩ | ⟨rfl, rfl⟩ | ⟨rfl, rfl⟩ | ⟨rfl, rfl⟩ <;>
      rfl

/-- A code point that may stand in a word begins a number, a word or nothing. -/
theorem segment_plain {first : CodePoint} (inside : continuesIdentifier first = true)
    (position : Position) (rest : Text) :
    segment position first rest =
      if isDigit first || (first = hyphen && rest.head?.any isDigit) then
        scanNumber position (first :: rest)
      else if startsIdentifier first then
        ⟨some (word (first :: rest.takeWhile continuesIdentifier)), [],
          position.past (first :: rest.takeWhile continuesIdentifier),
          rest.dropWhile continuesIdentifier⟩
      else ⟨none, [.located position (.unexpectedPoint first)], position.after first, rest⟩ := by
  obtain ⟨blank, comment, mark, double, single⟩ := other_of_continuesIdentifier inside
  simp [segment, blank, comment, mark, double, single, Position.past_cons]

/-- A line comment ends in front of the newline and gives no token. -/
theorem segment_lineComment {content following : Text} (inside : newline ∉ content)
    (stops : Stops (· ≠ newline) following) (position : Position) :
    segment position slash (slash :: (content ++ following)) =
      ⟨none, [], position.past (slash :: slash :: content), following⟩ := by
  have points : ∀ point ∈ slash :: content, decide (point ≠ newline) = true := by
    intro point member
    rw [decide_eq_true_eq]
    rintro rfl
    rcases List.mem_cons.mp member with same | member
    · exact absurd same (by decide)
    · exact inside member
  have taken := takeWhile_of_stops points stops
  have dropped := dropWhile_of_stops points stops
  rw [List.cons_append] at taken dropped
  show Segment.mk none [] _ _ = _
  rw [taken, dropped]
  rfl

/-- A block comment ends with the first closer and gives no token. -/
theorem segment_blockComment {content following : Text} (inside : ¬ [asterisk, slash] <:+: content)
    (position : Position) :
    segment position slash (asterisk :: (content ++ asterisk :: slash :: following)) =
      ⟨none, [], position.past (slash :: asterisk :: (content ++ [asterisk, slash])), following⟩ := by
  have skipped := skipComment_of_content inside ((position.after slash).after asterisk) following
  have other : asterisk ≠ slash := by decide
  unfold segment
  dsimp only
  rw [if_neg (by decide), if_neg (by simp [other]), if_pos (by simp), List.drop_succ_cons,
    List.drop_zero, skipped]
  rfl

theorem segment_quote {quote : CodePoint} (quotes : quote = quotationMark ∨ quote = apostrophe)
    (position : Position) (rest : Text) :
    segment position quote rest =
      scanString position quote (position.after quote) [] [] rest := by
  rcases quotes with rfl | rfl <;> rfl

/-- A numeral with nothing behind it that spoils it is scanned to what it denotes. -/
theorem scanNumber_of_written {numeral : Numeral} {lexeme : Lexeme} {following : Text}
    (written : numeral.IsWritten) (stops : Stops spoilsNumber following)
    (denotes : numeral.Denotes lexeme) (position : Position) :
    scanNumber position (numeral.text ++ following) =
      ⟨some lexeme, [], position.past numeral.text, following⟩ := by
  have unspoiled : ¬ following.head?.any spoilsNumber = true := by
    cases following with
    | nil => simp
    | cons point rest => simp [stops_cons_iff.mp stops]
  unfold scanNumber
  rw [numeral_of_written written stops]
  simp only [unspoiled, value_eq_ok_iff.mpr denotes]
  rfl

/-- A segment that begins like a number is scanned as one. -/
theorem segment_number {numeral : Numeral} (written : numeral.IsWritten) (position : Position)
    (following : Text) :
    ∃ first rest, numeral.text = first :: rest ∧
      segment position first (rest ++ following) = scanNumber position (numeral.text ++ following) := by
  obtain ⟨first, rest, same, starts⟩ := written.starts following
  have inside : continuesIdentifier first = true := by
    rcases Bool.or_eq_true _ _ ▸ starts with digit | sign
    · simp [continuesIdentifier, digit]
    · rw [(by simpa using sign : first = hyphen ∧ _).1]
      rfl
  refine ⟨first, rest, same, ?_⟩
  rw [segment_plain inside, if_pos starts, ← List.cons_append, ← same]

theorem segment_word {name following : Text} (isWord : IsWord name following)
    (position : Position) :
    ∃ first rest, name = first :: rest ∧ segment position first (rest ++ following) =
      ⟨some (word name), [], position.past name, following⟩ := by
  obtain ⟨first, rest, rfl, starts⟩ := isWord.starts
  have inside : ∀ point ∈ rest, continuesIdentifier point = true := fun point member =>
    isWord.continues point (List.mem_cons_of_mem _ member)
  have first : continuesIdentifier first = true := isWord.continues first List.mem_cons_self
  obtain ⟨digit, sign⟩ := number_of_startsIdentifier starts
  refine ⟨_, _, rfl, ?_⟩
  rw [segment_plain first, takeWhile_of_stops inside isWord.stops,
    dropWhile_of_stops inside isWord.stops, if_neg, if_pos starts]
  simp [digit, sign]

/-- A segment of the grammar is scanned as one. -/
theorem segment_of_isSegment {written following : Text} {lexeme : Option Lexeme}
    (isSegment : IsSegment written following lexeme) (position : Position) :
    ∃ first rest, written = first :: rest ∧ segment position first (rest ++ following) =
      ⟨lexeme, [], position.past written, following⟩ := by
  cases isSegment with
  | blank blank =>
    refine ⟨_, _, rfl, ?_⟩
    simp [segment, blank, Position.past_cons, Position.past_nil]
  | lineComment inside stops => exact ⟨_, _, rfl, segment_lineComment inside stops position⟩
  | blockComment inside =>
    refine ⟨_, _, rfl, ?_⟩
    rw [List.cons_append, List.append_assoc]
    exact segment_blockComment inside position
  | mark listed =>
    refine ⟨_, _, rfl, ?_⟩
    simp only [marks, List.mem_cons, Prod.mk.injEq, List.not_mem_nil, or_false] at listed
    rcases listed with ⟨rfl, rfl⟩ | ⟨rfl, rfl⟩ | ⟨rfl, rfl⟩ | ⟨rfl, rfl⟩ | ⟨rfl, rfl⟩ | ⟨rfl, rfl⟩ <;>
      rfl
  | string quotes allowed =>
    refine ⟨_, _, rfl, ?_⟩
    rw [segment_quote quotes, List.append_assoc, List.singleton_append,
      scanString_of_body allowed (by rcases quotes with rfl | rfl <;> decide)]
    rfl
  | keyword isWord listed =>
    obtain ⟨first, rest, same, read⟩ := segment_word isWord position
    refine ⟨first, rest, same, ?_⟩
    rw [read, word, keyword?_eq_some_iff.mpr listed]
  | identifier isWord unlisted =>
    obtain ⟨first, rest, same, read⟩ := segment_word isWord position
    refine ⟨first, rest, same, ?_⟩
    rw [read, word, keyword?_eq_none_iff.mpr unlisted]
  | number written stops denotes =>
    obtain ⟨first, rest, same, read⟩ := segment_number written position following
    refine ⟨first, rest, same, ?_⟩
    rw [read, scanNumber_of_written written stops denotes]

/-- A word of a source is a word or a truth value. -/
theorem isSegment_of_word {name following : Text} (isWord : IsWord name following) :
    IsSegment name following (some (word name)) := by
  unfold word
  split
  · rename_i listed
    exact .keyword isWord (keyword?_eq_some_iff.mp listed)
  · rename_i unlisted
    exact .identifier isWord (keyword?_eq_none_iff.mp unlisted)

/-- A number that is scanned without a fault is a numeral of the grammar. -/
theorem isSegment_of_scanNumber {first : CodePoint} {rest : Text} {position : Position}
    (starts : (isDigit first || (first = hyphen && rest.head?.any isDigit)) = true)
    (clean : (scanNumber position (first :: rest)).errors = []) :
    ∃ written, IsSegment written (scanNumber position (first :: rest)).rest
        (scanNumber position (first :: rest)).lexeme ∧
      first :: rest = written ++ (scanNumber position (first :: rest)).rest := by
  obtain ⟨written, same⟩ := written_of_numeral starts
  rcases read : numeral (first :: rest) with ⟨number, behind⟩
  rw [read] at written same
  simp only [scanNumber, read] at clean ⊢
  split at clean
  · cases clean
  · rename_i unspoiled
    rw [if_neg unspoiled]
    cases value : number.value with
    | error fault => simp [value] at clean
    | ok lexeme =>
      have stops : Stops spoilsNumber behind := by
        intro point member
        rw [Option.mem_def.mp member] at unspoiled
        simpa using unspoiled
      exact ⟨_, .number written stops (value_eq_ok_iff.mp value), same.symm⟩

/-- What is scanned as a segment without a fault is one. -/
theorem isSegment_of_segment {first : CodePoint} {rest : Text} {position : Position}
    (clean : (segment position first rest).errors = []) :
    ∃ written, IsSegment written (segment position first rest).rest
        (segment position first rest).lexeme ∧
      first :: rest = written ++ (segment position first rest).rest := by
  revert clean
  unfold segment
  dsimp only
  split
  · rename_i blank
    exact fun _ => ⟨[first], .blank blank, rfl⟩
  split
  · rename_i comment
    intro _
    obtain ⟨rfl, head⟩ : first = slash ∧ rest.head? = some slash := by simpa using comment
    obtain ⟨content, rfl⟩ := List.head?_eq_some_iff.mp head
    refine ⟨slash :: slash :: content.takeWhile (· ≠ newline), ?_, ?_⟩
    · rw [List.dropWhile_cons_of_pos (by decide)]
      refine .lineComment (fun member => ?_) (stops_dropWhile _ content)
      exact absurd (List.all_eq_true.mp List.all_takeWhile _ member) (by decide)
    · rw [List.dropWhile_cons_of_pos (by decide), List.cons_append, List.cons_append,
        List.takeWhile_append_dropWhile]
  split
  · rename_i comment
    obtain ⟨rfl, head⟩ : first = slash ∧ rest.head? = some asterisk := by simpa using comment
    obtain ⟨source, rfl⟩ := List.head?_eq_some_iff.mp head
    split
    · rename_i found
      intro _
      obtain ⟨content, inside, same⟩ := content_of_skipComment found
      rw [List.drop_one, List.tail_cons] at same
      exact ⟨_, .blockComment inside, by simp [same]⟩
    · intro clean
      cases clean
  split
  · rename_i listed
    exact fun _ => ⟨[first], .mark (punctuation?_eq_some_iff.mp listed), rfl⟩
  split
  · rename_i quotes
    intro clean
    obtain ⟨body, decoded, allowed, same, read⟩ := body_of_scanString clean
    rw [read]
    refine ⟨_, .string (by simpa using quotes) allowed, ?_⟩
    rw [List.cons_append, List.append_assoc, List.singleton_append, ← same]
  split
  · rename_i starts
    exact fun clean => isSegment_of_scanNumber starts clean
  split
  · rename_i starts
    intro _
    refine ⟨_, isSegment_of_word ⟨⟨_, _, rfl, starts⟩, ?_, stops_dropWhile _ rest⟩, ?_⟩
    · intro point member
      rcases List.mem_cons.mp member with rfl | member
      · simp [continuesIdentifier, starts]
      · exact List.all_eq_true.mp List.all_takeWhile _ member
    · rw [List.cons_append, List.takeWhile_append_dropWhile]
  · intro clean
    cases clean

end Segments

/-! ### Whole sources -/

/-- The scanner without its accumulators: a segment, and the scan of the rest. -/
theorem scanFrom_step (position : Position) (first : CodePoint) (rest : Text) :
    scanFrom position [] [] (first :: rest) =
      ⟨((segment position first rest).lexeme.map (Token.mk · position)).toList ++
          (scanFrom (segment position first rest).position [] []
            (segment position first rest).rest).tokens,
        (scanFrom (segment position first rest).position [] []
          (segment position first rest).rest).finish,
        (segment position first rest).errors ++
          (scanFrom (segment position first rest).position [] []
            (segment position first rest).rest).errors⟩ := by
  rw [scanFrom_cons, scanFrom_eq]
  cases (segment position first rest).lexeme <;> simp

theorem map_lexeme_toList (lexeme : Option Lexeme) (position : Position) :
    (lexeme.map (Token.mk · position)).toList.map Token.lexeme = lexeme.toList := by
  cases lexeme <;> rfl

/-- A source that can be cut is scanned without faults into the lexemes of its segments. -/
theorem scan_of_cut {source : Text} {lexemes : List Lexeme} (cut : Cut source lexemes)
    (position : Position) :
    (scanFrom position [] [] source).errors = [] ∧
      (scanFrom position [] [] source).tokens.map Token.lexeme = lexemes := by
  induction cut generalizing position with
  | nil => rw [scanFrom_nil]; exact ⟨rfl, rfl⟩
  | cons isSegment _ ih =>
    obtain ⟨first, rest, rfl, read⟩ := segment_of_isSegment isSegment position
    rw [List.cons_append, scanFrom_step, read]
    obtain ⟨errors, tokens⟩ := ih (position.past (first :: rest))
    refine ⟨by rw [errors]; rfl, ?_⟩
    rw [List.map_append, map_lexeme_toList, tokens]

/-- A source that is scanned without faults can be cut. -/
theorem cut_of_scan {source : Text} {position : Position}
    (clean : (scanFrom position [] [] source).errors = []) :
    Cut source ((scanFrom position [] [] source).tokens.map Token.lexeme) := by
  -- on the length: what is left behind a segment is shorter, but not by one code point alone
  induction length : source.length using Nat.strongRecOn generalizing position source with
  | _ bound ih =>
    cases source with
    | nil =>
      rw [scanFrom_nil]
      exact .nil
    | cons first rest =>
      rw [scanFrom_step] at clean ⊢
      obtain ⟨here, behind⟩ := List.append_eq_nil_iff.mp clean
      obtain ⟨written, isSegment, same⟩ := isSegment_of_segment here
      have shorter := segment_rest_le position first rest
      have cut := ih _ (by rw [← length, List.length_cons]; omega) behind rfl
      rw [same, List.map_append, map_lexeme_toList]
      exact .cons isSegment cut

/-- **Scanning is exact.** A source has no lexical fault just when it can be cut into segments, and its
tokens are then the lexemes of the segments in order, whichever way it is cut. -/
theorem scan_exact (source : Text) :
    ((scan source).errors = [] ↔ ∃ lexemes, Cut source lexemes) ∧
      ∀ lexemes, Cut source lexemes ↔
        (scan source).errors = [] ∧ (scan source).tokens.map Token.lexeme = lexemes := by
  have cuts : ∀ lexemes, Cut source lexemes ↔
      (scan source).errors = [] ∧ (scan source).tokens.map Token.lexeme = lexemes := by
    intro lexemes
    constructor
    · exact fun cut => scan_of_cut cut .start
    · rintro ⟨clean, rfl⟩
      exact cut_of_scan clean
  refine ⟨⟨fun clean => ⟨_, cut_of_scan clean⟩, ?_⟩, cuts⟩
  rintro ⟨lexemes, cut⟩
  exact ((cuts lexemes).mp cut).1

end BlockPage.Layout
