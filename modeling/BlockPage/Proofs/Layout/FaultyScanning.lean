/-
**Scanning gives what any source is cut into.**

Every source is a row of pieces, and the scanner takes one piece after the other: it finds the lexemes and
the faults of the pieces, each at the position of its offset.

* `numeral_of_longest`, `value_eq_error_iff`: numbers that run on or have no value.
* `segment_of_isPiece`: one piece is scanned as it is.
* `exists_piece`, `exists_pieces`: every source is cut into pieces.
* `Pieces.ascending`: the order of what is found.
* `scan_of_pieces`: a whole source.
-/

import BlockPage.Proofs.Layout.FaultyStrings
import BlockPage.Proofs.Layout.Scanning

namespace BlockPage.Layout

open CodePoint Number

/-! ### Numbers -/

section Numbers

variable {numeral : Numeral} {following : Text}

/-- The longest number is scanned. -/
theorem numeral_of_longest (written : numeral.IsWritten) (longest : numeral.IsLongest following) :
    (Layout.numeral (numeral.text ++ following)).1.text = numeral.text ∧
      (Layout.numeral (numeral.text ++ following)).2 = following := by
  obtain ⟨first, rest, same, digit⟩ := written.starts following
  obtain ⟨isWritten, read⟩ := written_of_numeral digit
  rw [← List.cons_append, ← same] at isWritten read
  have short := longest _ isWritten ⟨_, read⟩
  have long := numeral_longest written (List.prefix_append _ following)
  exact List.append_inj read (Nat.le_antisymm short long)

/-- A number has no value just when it is refused. -/
theorem value_eq_error_iff {fault : Fault} :
    numeral.value = .error fault ↔ numeral.Refused fault := by
  rw [value_eq]
  constructor
  · intro found
    by_cases whole : numeral.fraction = [] ∧ numeral.exponent = []
    · rw [if_pos whole] at found
      by_cases long : Integer.digitLimit < numeral.whole.length
      · rw [if_pos long] at found
        cases found
        exact .tooLong whole.1 whole.2 long
      · rw [if_neg long] at found
        cases found
    · rw [if_neg whole] at found
      split at found
      · cases found
      · rename_i infinite
        cases found
        exact .outOfRange (Decidable.not_and_iff_not_or_not.mp whole) (Bool.not_eq_true _ ▸ infinite)
  · rintro (⟨fraction, exponent, long⟩ | ⟨marked, infinite⟩)
    · rw [if_pos ⟨fraction, exponent⟩, if_pos long]
    · rw [if_neg (Decidable.not_and_iff_not_or_not.mpr marked), if_neg (by rw [infinite]; decide)]

/-- A numeral with something behind it that spoils it is one malformed number, up to where that ends. -/
theorem scanNumber_of_malformed {tail : Text} (written : numeral.IsWritten)
    (longest : numeral.IsLongest (tail ++ following)) (nonempty : tail ≠ [])
    (inside : ∀ point ∈ tail, spoilsNumber point = true) (stops : Stops spoilsNumber following)
    (position : Position) :
    scanNumber position (numeral.text ++ (tail ++ following)) =
      ⟨none, [.located position (.malformedNumber (numeral.text ++ tail))],
        position.past (numeral.text ++ tail), following⟩ := by
  obtain ⟨same, rest⟩ := numeral_of_longest written longest
  have spoiled : (tail ++ following).head?.any spoilsNumber = true := by
    obtain ⟨point, points, rfl⟩ := List.exists_cons_of_ne_nil nonempty
    exact inside point (.head _)
  unfold scanNumber
  simp only [same, rest, spoiled, takeWhile_of_stops inside stops, dropWhile_of_stops inside stops,
    if_true]

/-- A numeral whose value is refused is taken whole and gives no token. -/
theorem scanNumber_of_refused {fault : Fault} (written : numeral.IsWritten)
    (stops : Stops spoilsNumber following) (refused : numeral.Refused fault) (position : Position) :
    scanNumber position (numeral.text ++ following) =
      ⟨none, [.located position fault], position.past numeral.text, following⟩ := by
  have unspoiled : following.head?.any spoilsNumber = false := by
    cases following with
    | nil => rfl
    | cons point rest => exact stops_cons_iff.mp stops
  unfold scanNumber
  simp only [numeral_of_written written stops, unspoiled, value_eq_error_iff.mpr refused,
    Bool.false_eq_true, if_false]

end Numbers

/-! ### Pieces -/

section Pieces

variable {written following : Text} {lexeme : Option Lexeme} {faults : List (Found Fault)}

/-- A comment without an end is not closed. -/
theorem skipComment_eq_none_iff {content : Text} {position : Position} :
    skipComment position content = none ↔ ¬ [asterisk, slash] <:+: content := by
  induction content generalizing position with
  | nil => simp [skipComment]
  | cons point content ih =>
    rw [List.infix_cons_iff, not_or]
    by_cases early : [asterisk, slash] <+: point :: content
    · obtain ⟨rest, same⟩ := early
      rw [← same]
      simp [skipComment]
    · rw [skipComment_cons early, ih, and_iff_right early]

/-- A comment that is not closed takes the rest of the text. -/
theorem segment_openComment {content : Text} (inside : ¬ [asterisk, slash] <:+: content)
    (position : Position) :
    segment position slash (asterisk :: content) =
      ⟨none, [.located position .unterminatedComment],
        position.past (slash :: asterisk :: content), []⟩ := by
  have skipped : skipComment ((position.after slash).after asterisk) content = none :=
    skipComment_eq_none_iff.mpr inside
  have other : asterisk ≠ slash := by decide
  unfold segment
  dsimp only
  rw [if_neg (by decide), if_neg (by simp [other]), if_pos (by simp), List.drop_succ_cons,
    List.drop_zero, skipped]
  rfl

/-- A code point that begins nothing is taken alone. -/
theorem segment_unexpected {point : CodePoint} (begins : BeginsNothing point following)
    (position : Position) :
    segment position point following =
      ⟨none, [.located position (.unexpectedPoint point)], position.after point, following⟩ := by
  have unmarked : punctuation? point = none := by
    rw [Option.eq_none_iff_forall_ne_some]
    intro lexeme found
    exact begins.mark (List.mem_map.mpr ⟨_, punctuation?_eq_some_iff.mp found, rfl⟩)
  have comment (next : CodePoint) (isMark : next = slash ∨ next = asterisk) :
      ¬ (point = slash && following.head? = some next) = true := by
    rw [Bool.and_eq_true, decide_eq_true_eq, decide_eq_true_eq]
    rintro ⟨rfl, head⟩
    have other := begins.comment rfl next head
    rcases isMark with rfl | rfl <;> cases other
  have number : ¬ (point = hyphen && following.head?.any isDigit) = true := by
    rw [Bool.and_eq_true, decide_eq_true_eq]
    rintro ⟨rfl, digit⟩
    cases following with
    | nil => cases digit
    | cons next rest => exact Bool.noConfusion ((stops_cons_iff.mp (begins.minus rfl)).symm.trans digit)
  unfold segment
  simp [begins.blank, comment slash (.inl rfl), comment asterisk (.inr rfl), unmarked,
    begins.quote.1, begins.quote.2, begins.digit, begins.letter, number]

theorem ne_backslash_of_quote {quote : CodePoint}
    (quotes : quote = quotationMark ∨ quote = apostrophe) :
    quote ≠ backslash ∧ isHexDigit quote = false := by
  rcases quotes with rfl | rfl <;> decide

theorem map_error_string {quote : CodePoint} {body decoded : Text}
    (isBody : FaultyBody quote body decoded faults) (position : Position) (last : Text) :
    (faults.map (.behind 1)).map (Found.error position (quote :: (body ++ last))) =
      faults.map (Found.error (position.after quote) body) := by
  rw [← map_error_append isBody.within (position.after quote) last]
  exact map_error_behind position [quote] (body ++ last) faults

/-- **One piece** is scanned as it is. -/
theorem segment_of_isPiece (piece : IsPiece written following lexeme faults) (position : Position) :
    ∃ first rest, written = first :: rest ∧ segment position first (rest ++ following) =
      ⟨lexeme, faults.map (Found.error position written), position.past written, following⟩ := by
  cases piece with
  | segment isSegment => exact segment_of_isSegment isSegment position
  | @string quote body decoded _ faults quotes isBody =>
    obtain ⟨plain, noDigit⟩ := ne_backslash_of_quote quotes
    have stops : Stops isHexDigit (quote :: following) := stops_cons_iff.mpr noDigit
    refine ⟨quote, body ++ [quote], rfl, ?_⟩
    rw [segment_quote quotes, List.append_assoc, List.singleton_append,
      scanString_faultyBody isBody plain stops, scanString_close, map_error_string isBody]
    simp [Position.past_cons, Position.past_append, Position.past_nil]
  | @openString quote body decoded last faults quotes isBody lasts =>
    obtain ⟨plain, _⟩ := ne_backslash_of_quote quotes
    have stops : Stops isHexDigit last := by
      rcases lasts with rfl | rfl <;> simp [Stops]
      decide
    have ended : scanString position quote ((position.after quote).past body) (decoded.reverse ++ [])
        ((faults.map (Found.error (position.after quote) body)).reverse ++ []) last =
        ⟨none, faults.map (Found.error (position.after quote) body) ++
          [.located position .unterminatedString], ((position.after quote).past body).past last, []⟩ := by
      rcases lasts with rfl | rfl
      · simp [scanString, Position.past_nil]
      · simp [scanString, plain.symm, Position.past_cons, Position.past_nil]
    refine ⟨quote, body ++ last, rfl, ?_⟩
    rw [List.append_nil, segment_quote quotes, scanString_faultyBody isBody plain stops, ended,
      List.map_append, map_error_string isBody]
    simp [Position.past_cons, Position.past_append, error_start]
  | @openComment content inside =>
    refine ⟨slash, asterisk :: content, rfl, ?_⟩
    rw [List.append_nil, segment_openComment inside]
    rfl
  | @malformed numeral tail _ isWritten longest some inside stops =>
    obtain ⟨first, rest, same, read⟩ := segment_number isWritten position (tail ++ following)
    refine ⟨first, rest ++ tail, by rw [same]; rfl, ?_⟩
    rw [List.append_assoc, read, scanNumber_of_malformed isWritten longest some inside stops]
    rfl
  | @refused numeral fault _ isWritten stops refused =>
    obtain ⟨first, rest, same, read⟩ := segment_number isWritten position following
    refine ⟨first, rest, same, ?_⟩
    rw [read, scanNumber_of_refused isWritten stops refused]
    rfl
  | @unexpected point _ begins => exact ⟨point, [], rfl, segment_unexpected begins position⟩

/-- Where a number begins there is a piece: a numeral, a spoiled one or a refused one. -/
theorem exists_piece_number {first : CodePoint} {rest : Text}
    (starts : (isDigit first || (first = hyphen && rest.head?.any isDigit)) = true) :
    ∃ written following lexeme faults, first :: rest = written ++ following ∧
      IsPiece written following lexeme faults := by
  obtain ⟨isWritten, same⟩ := written_of_numeral starts
  rcases read : Layout.numeral (first :: rest) with ⟨numeral, behind⟩
  rw [read] at isWritten same
  dsimp only at isWritten same
  have longest : numeral.IsLongest behind := by
    intro other otherWritten stands
    rw [same] at stands
    have long := numeral_longest otherWritten stands
    rwa [read] at long
  by_cases stops : Stops spoilsNumber behind
  · cases value : numeral.value with
    | ok lexeme =>
      exact ⟨_, behind, _, _, same.symm,
        .segment (.number isWritten stops (value_eq_ok_iff.mp value))⟩
    | error fault =>
      exact ⟨_, behind, _, _, same.symm, .refused isWritten stops (value_eq_error_iff.mp value)⟩
  · have split : behind.takeWhile spoilsNumber ++ behind.dropWhile spoilsNumber = behind :=
      List.takeWhile_append_dropWhile
    refine ⟨numeral.text ++ behind.takeWhile spoilsNumber, behind.dropWhile spoilsNumber, none, _,
      by rw [List.append_assoc, split, same], .malformed isWritten (split.symm ▸ longest) ?_
        (List.all_eq_true.mp List.all_takeWhile) (stops_dropWhile _ _)⟩
    intro empty
    rw [empty, List.nil_append] at split
    exact stops (split ▸ stops_dropWhile spoilsNumber behind)

/-- Every source that is not empty begins with a piece. -/
theorem exists_piece (first : CodePoint) (rest : Text) :
    ∃ written following lexeme faults, first :: rest = written ++ following ∧
      IsPiece written following lexeme faults := by
  by_cases clean : (segment .start first rest).errors = []
  · obtain ⟨written, isSegment, same⟩ := isSegment_of_segment clean
    exact ⟨written, _, _, [], same, .segment isSegment⟩
  -- what is left are the segments with faults
  revert clean
  unfold segment
  dsimp only
  split
  · exact fun clean => absurd rfl clean
  split
  · exact fun clean => absurd rfl clean
  split
  · rename_i comment
    obtain ⟨rfl, head⟩ : first = slash ∧ rest.head? = some asterisk := by simpa using comment
    obtain ⟨content, rfl⟩ := List.head?_eq_some_iff.mp head
    split
    · exact fun clean => absurd rfl clean
    · rename_i skipped
      rw [List.drop_one, List.tail_cons, skipComment_eq_none_iff] at skipped
      exact fun _ => ⟨_, [], _, _, (List.append_nil _).symm, .openComment skipped⟩
  split
  · exact fun clean => absurd rfl clean
  split
  · rename_i quoted
    have quotes : first = quotationMark ∨ first = apostrophe := by simpa using quoted
    intro _
    obtain ⟨body, decoded, faults, ending, isBody, rfl, ends⟩ := exists_faultyBody first rest
    cases ends with
    | closed following => exact ⟨_, following, _, _, by simp, .string quotes isBody⟩
    | unclosed => exact ⟨_, [], _, _, by simp, .openString quotes isBody (.inl rfl)⟩
    | escaping => exact ⟨_, [], _, _, by simp, .openString quotes isBody (.inr rfl)⟩
  split
  · rename_i starts
    exact fun _ => exists_piece_number starts
  split
  · exact fun clean => absurd rfl clean
  · rename_i blank line block _ unmarked unquoted number unlettered
    rw [Bool.or_eq_true, not_or, Bool.not_eq_true] at number
    refine fun _ => ⟨[first], rest, none, _, rfl, .unexpected ⟨by simpa using blank, ?_,
      by simpa using unquoted, number.1, by simpa using unlettered, ?_, ?_⟩⟩
    · intro listed
      obtain ⟨⟨_, lexeme⟩, member, rfl⟩ := List.mem_map.mp listed
      rw [punctuation?_eq_some_iff.mpr member] at unmarked
      cases unmarked
    · rintro rfl next head
      rw [Option.mem_def.mp head] at line block
      simpa using And.intro line block
    · rintro rfl next head
      have other := number.2
      rw [Option.mem_def.mp head] at other
      simpa using other

/-- No piece is empty, so that cutting a text into pieces comes to an end. -/
theorem IsPiece.ne_nil (piece : IsPiece written following lexeme faults) : written ≠ [] := by
  obtain ⟨first, rest, same, -⟩ := segment_of_isPiece piece .start
  rw [same]
  exact List.cons_ne_nil _ _

theorem IsPiece.within (piece : IsPiece written following lexeme faults) :
    ∀ found ∈ faults, found.offset < written.length := by
  have positive := List.length_pos_iff.mpr piece.ne_nil
  have alone (fault : Fault) : ∀ found ∈ [Found.mk 0 fault], found.offset < written.length :=
    List.forall_mem_singleton.mpr positive
  cases piece with
  | segment _ => exact List.forall_mem_nil _
  | @string quote body _ _ faults _ isBody =>
    intro found inside
    refine Nat.lt_trans (within_behind isBody.within [quote] found inside) ?_
    simp
  | @openString quote body _ last faults _ isBody _ =>
    refine List.forall_mem_append.mpr ⟨fun found inside => ?_, alone _⟩
    refine Nat.lt_of_lt_of_le (within_behind isBody.within [quote] found inside) ?_
    simp
  | openComment _ | malformed _ _ _ _ _ | refused _ _ _ | unexpected _ => exact alone _

/-- **Every source** is a row of pieces. -/
theorem exists_pieces (source : Text) : ∃ lexemes faults, Pieces source lexemes faults := by
  -- on the length, as pieces are longer than one code point
  induction length : source.length using Nat.strongRecOn generalizing source with
  | _ bound ih =>
    cases source with
    | nil => exact ⟨[], [], .nil⟩
    | cons first rest =>
      obtain ⟨written, following, lexeme, faults, same, piece⟩ := exists_piece first rest
      have taken := List.length_pos_iff.mpr piece.ne_nil
      obtain ⟨lexemes, others, pieces⟩ :=
        ih following.length (by rw [← length, same, List.length_append]; omega) following rfl
      rw [same]
      exact ⟨_, _, .cons piece pieces⟩

/-- Lexemes stand at ascending offsets before the end of the source, faults before it, too. -/
theorem Pieces.ascending {source : Text} {lexemes : List (Found Lexeme)}
    (pieces : Pieces source lexemes faults) :
    (lexemes.map Found.offset ++ [source.length]).Pairwise (· < ·) ∧
      ∀ found ∈ faults, found.offset < source.length := by
  induction pieces with
  | nil => exact ⟨List.pairwise_singleton _ _, List.forall_mem_nil _⟩
  | @cons written following lexeme lexemes faults others piece _ ih =>
    obtain ⟨offsets, faulty⟩ := ih
    refine ⟨?_, List.forall_mem_append.mpr ⟨fun found inside => ?_, within_behind faulty written⟩⟩
    · have moved : (lexemes.map (.behind written.length)).map Found.offset ++
          [(written ++ following).length] =
          (lexemes.map Found.offset ++ [following.length]).map (written.length + ·) := by
        simp [Found.behind]
      have behind := offsets.map (written.length + ·) fun _ _ less =>
        Nat.add_lt_add_left less written.length
      rw [List.map_append, List.append_assoc, moved]
      cases lexeme with
      | none => exact behind
      | some lexeme =>
        refine List.pairwise_cons.mpr ⟨fun offset inside => ?_, behind⟩
        obtain ⟨_, _, rfl⟩ := List.mem_map.mp inside
        exact Nat.add_pos_left (List.length_pos_iff.mpr piece.ne_nil) _
    · rw [List.length_append]
      exact Nat.lt_add_right _ (piece.within found inside)

/-- **Scanning is exact.** -/
theorem scan_of_pieces {source : Text} {lexemes : List (Found Lexeme)}
    (pieces : Pieces source lexemes faults) (position : Position) :
    scanFrom position [] [] source =
      ⟨lexemes.map (Found.token position source), position.past source,
        faults.map (Found.error position source)⟩ := by
  induction pieces generalizing position with
  | nil => rw [scanFrom_nil]; rfl
  | @cons written following lexeme lexemes faults others piece _ ih =>
    obtain ⟨first, rest, rfl, read⟩ := segment_of_isPiece piece position
    rw [List.cons_append, scanFrom_step, read]
    dsimp only
    rw [ih, List.map_append, List.map_append, ← List.cons_append, map_token_behind, map_error_behind,
      map_error_append piece.within, Position.past_append]
    cases lexeme <;> rfl

end Pieces

end BlockPage.Layout
