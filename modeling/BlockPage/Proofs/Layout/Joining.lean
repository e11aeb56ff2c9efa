/-
**Sources compose at a newline.**

Only a string or a comment that is never closed runs over a newline. Every other piece ends in front of it,
whatever its faults are and whatever it looks at. So a source and a second one behind a newline are found
as they are alone, the second one further down, and documents without wrappers are read one after the
other.

* `Position.below`, `Scan.move`, `scanFrom_below`: a source that begins further down.
* `Fault.Closed`, `IsPiece.before_newline`: the pieces in front of a newline.
* `Pieces.joined`, `scan_joined`: two sources with a newline between them.
* `starts_of_declarations`, `compile_joined`: two documents.
-/

import BlockPage.Proofs.Layout.Places
import BlockPage.Proofs.Layout.Wrapping

namespace BlockPage.Layout

open CodePoint

/-! ### Further down -/

/-- The position some lines further down, in the same column. -/
def Position.below (lines : Nat) (position : Position) : Position :=
  ⟨position.line + lines, position.column⟩

/-- The scan with its positions moved. -/
def Scan.move (move : Position → Position) (scanned : Scan) : Scan :=
  ⟨scanned.tokens.map (Token.move move), move scanned.finish,
    scanned.errors.map (SourceError.move move)⟩

section Below

variable (lines : Nat) (position : Position)

theorem after_below (point : CodePoint) :
    (position.below lines).after point = (position.after point).below lines := by
  unfold Position.after
  split
  · exact congrArg (Position.mk · 1) (Nat.add_right_comm _ _ _)
  · rfl

/-- Lines in front of a text move what is behind it by as many lines. -/
theorem past_below (text : Text) :
    (position.below lines).past text = (position.past text).below lines := by
  induction text generalizing position with
  | nil => rfl
  | cons point rest ih => rw [Position.past_cons, after_below, ih, Position.past_cons]

/-- A source that begins further down is scanned as it is. -/
theorem scanFrom_below (source : Text) :
    scanFrom (position.below lines) [] [] source =
      (scanFrom position [] [] source).move (.below lines) := by
  obtain ⟨lexemes, faults, pieces⟩ := exists_pieces source
  rw [scan_of_pieces pieces, scan_of_pieces pieces, Scan.move, past_below, List.map_map,
    List.map_map]
  congr 1
  · exact List.map_congr_left fun found _ => congrArg (Token.mk found.item) (past_below _ _ _)
  · exact List.map_congr_left fun found _ =>
      congrArg (SourceError.located · found.item) (past_below _ _ _)

/-- Behind a source and a newline. -/
theorem after_newline (source : Text) :
    (Position.start.past source).after newline = Position.start.below (1 + source.count newline) := by
  rw [past_start_eq, Position.after, if_pos rfl, Nat.add_comm _ 1]
  rfl

end Below

/-! ### In front of a newline -/

/-- The fault is not that of a string or a comment that is never closed. -/
def Fault.Closed (fault : Fault) : Prop :=
  fault ≠ .unterminatedString ∧ fault ≠ .unterminatedComment

section Newline

variable {written following : Text} {lexeme : Option Lexeme} {faults : List (Found Fault)}

theorem Stops.append_newline {test : CodePoint → Bool} (stops : Stops test following)
    (stopped : test newline = false) (rest : Text) : Stops test (following ++ newline :: rest) := by
  cases following with
  | nil => exact stops_cons_iff.mpr stopped
  | cons point points => exact stops.of_head rfl

/-- What holds no newline stands in front of the first one. -/
theorem prefix_of_append_newline {text front rest : Text} (free : newline ∉ text)
    (stands : text <+: front ++ newline :: rest) : text <+: front := by
  rcases List.prefix_or_prefix_of_prefix stands (List.prefix_append front _) with within | ⟨more, rfl⟩
  · exact within
  · have behind := (List.prefix_append_right_inj front).mp stands
    cases more with
    | nil => simp
    | cons point points =>
      obtain ⟨rfl, -⟩ := List.cons_prefix_cons.mp behind
      exact absurd (List.mem_append_right front (.head _)) free

/-- A numeral is not longer for a newline behind what follows it. -/
theorem Numeral.IsLongest.append_newline {numeral : Numeral} (longest : numeral.IsLongest following)
    (rest : Text) : numeral.IsLongest (following ++ newline :: rest) := by
  intro other isWritten stands
  rw [← List.append_assoc] at stands
  exact longest other isWritten (prefix_of_append_newline (newline_not_mem_number isWritten) stands)

theorem BeginsNothing.append_newline {point : CodePoint} (begins : BeginsNothing point following)
    (rest : Text) : BeginsNothing point (following ++ newline :: rest) where
  blank := begins.blank
  mark := begins.mark
  quote := begins.quote
  digit := begins.digit
  letter := begins.letter
  comment := fun isSlash => (begins.comment isSlash).append_newline (by decide) rest
  minus := fun isHyphen => (begins.minus isHyphen).append_newline (by decide) rest

/-- A piece of a source is one when a newline stands behind the source, too. -/
theorem IsPiece.before_newline (piece : IsPiece written following lexeme faults)
    (closed : ∀ found ∈ faults, found.item.Closed) (rest : Text) :
    IsPiece written (following ++ newline :: rest) lexeme faults := by
  cases piece with
  | segment isSegment =>
    cases following with
    | nil => exact .segment (isSegment.before_newline rest)
    | cons point points => exact .segment (isSegment.of_head rfl)
  | string quotes isBody => exact .string quotes isBody
  | openString _ _ _ =>
    exact absurd rfl (closed _ (List.mem_append_right _ (.head _))).1
  | openComment _ => exact absurd rfl (closed _ (.head _)).2
  | malformed isWritten longest some inside stops =>
    refine .malformed isWritten ?_ some inside (stops.append_newline (by decide) rest)
    rw [← List.append_assoc]
    exact longest.append_newline rest
  | refused isWritten stops refused =>
    exact .refused isWritten (stops.append_newline (by decide) rest) refused
  | unexpected begins => exact .unexpected (begins.append_newline rest)

end Newline

/-! ### Two sources -/

section Joined

variable {first second : Text} {lexemes more : List (Found Lexeme)} {faults others : List (Found Fault)}

theorem map_behind_behind {α : Type} (inner outer : Nat) (items : List (Found α)) :
    (items.map (Found.behind inner)).map (Found.behind outer) =
      items.map (Found.behind (outer + inner)) := by
  rw [List.map_map]
  exact List.map_congr_left fun found _ => by simp [Found.behind, Nat.add_assoc]

/-- The pieces of two sources with a newline between them. -/
theorem Pieces.joined (pieces : Pieces first lexemes faults)
    (closed : ∀ found ∈ faults, found.item.Closed) (behind : Pieces second more others) :
    Pieces (first ++ newline :: second)
      (lexemes ++ more.map (.behind (first.length + 1)))
      (faults ++ others.map (.behind (first.length + 1))) := by
  induction pieces with
  | nil => exact .cons (.segment (.blank (by decide))) behind
  | @cons written following lexeme lexemes faults rest piece _ ih =>
    obtain ⟨here, later⟩ := List.forall_mem_append.mp closed
    have joined := ih fun found inside =>
      later (found.behind written.length) (List.mem_map_of_mem inside)
    have whole := Pieces.cons (piece.before_newline here second) joined
    simpa only [List.append_assoc, List.map_append, map_behind_behind, List.length_append,
      Nat.add_assoc] using whole

theorem map_token_append {source : Text} (pieces : Pieces source lexemes faults) (begin : Position)
    (following : Text) :
    lexemes.map (Found.token begin (source ++ following)) = lexemes.map (Found.token begin source) := by
  refine List.map_congr_left fun found inside => congrArg (Token.mk found.item) ?_
  have ascending := (List.pairwise_append.mp pieces.ascending.1).2.2
  have within := ascending found.offset (List.mem_map_of_mem inside) source.length (.head _)
  exact position_append (Nat.le_of_lt within) begin following

/-- The scanner goes through the first text, over the newline and through the second one. -/
theorem scanFrom_joined (pieces : Pieces first lexemes faults)
    (closed : ∀ found ∈ faults, found.item.Closed) (begin : Position) (second : Text) :
    scanFrom begin [] [] (first ++ newline :: second) =
      ⟨(scanFrom begin [] [] first).tokens ++
          (scanFrom ((begin.past first).after newline) [] [] second).tokens,
        (scanFrom ((begin.past first).after newline) [] [] second).finish,
        (scanFrom begin [] [] first).errors ++
          (scanFrom ((begin.past first).after newline) [] [] second).errors⟩ := by
  obtain ⟨more, others, behind⟩ := exists_pieces second
  have split : first ++ newline :: second = (first ++ [newline]) ++ second := by simp
  have length : first.length + 1 = (first ++ [newline]).length := by simp
  have place : (begin.past first).after newline = begin.past (first ++ [newline]) := by
    rw [Position.past_append]
    rfl
  rw [scan_of_pieces (pieces.joined closed behind), scan_of_pieces pieces, scan_of_pieces behind,
    List.map_append, List.map_append, map_token_append pieces,
    map_error_append pieces.ascending.2, split, length, map_token_behind, map_error_behind, place,
    Position.past_append begin (first ++ [newline])]

end Joined

/-- **Scanning composes across lines.** A newline and a second source behind a source without open strings
and comments add the tokens and the faults of the second source, further down, to those of the first. -/
theorem scan_joined (first second : Text)
    (closed : ∀ error ∈ (scan first).errors,
      error.fault ≠ .unterminatedString ∧ error.fault ≠ .unterminatedComment) :
    scan (first ++ newline :: second) =
      ⟨(scan first).tokens ++ (scan second).tokens.map (.move (.below (1 + first.count newline))),
        (scan second).finish.below (1 + first.count newline),
        (scan first).errors ++
          (scan second).errors.map (.move (.below (1 + first.count newline)))⟩ := by
  obtain ⟨lexemes, faults, pieces⟩ := exists_pieces first
  have found : scan first = _ := scan_of_pieces pieces .start
  have closed : ∀ found ∈ faults, found.item.Closed := by
    intro fault inside
    exact closed (fault.error .start first) (by rw [found]; exact List.mem_map_of_mem inside)
  rw [scan, scanFrom_joined pieces closed, after_newline, scanFrom_below]
  rfl

/-- A line with a number that runs on, a bad escape and a minus without a number. -/
def brokenLine : Text := "1x '\\q' -"

/-- A line with a number and a string that is never closed. -/
def openLine : Text := "2 'b"

theorem scan_joined_broken :
    (∀ error ∈ (scan brokenLine).errors,
        error.fault ≠ .unterminatedString ∧ error.fault ≠ .unterminatedComment) ∧
      scan (brokenLine ++ newline :: openLine) =
        ⟨[⟨.string [0x71], ⟨1, 4⟩⟩, ⟨.integer 2, ⟨2, 1⟩⟩], ⟨2, 5⟩,
          [.located ⟨1, 1⟩ (.malformedNumber [0x31, 0x78]), .located ⟨1, 5⟩ (.badEscape 0x71),
            .located ⟨1, 9⟩ (.unexpectedPoint hyphen), .located ⟨2, 3⟩ .unterminatedString]⟩ := by
  have closed : ∀ error ∈ (scan brokenLine).errors,
      error.fault ≠ .unterminatedString ∧ error.fault ≠ .unterminatedComment := by
    decide +kernel
  exact ⟨closed, (scan_joined brokenLine openLine closed).trans (by decide +kernel)⟩

/-! ### Two documents -/

section Documents

variable {first second : Text} {front behind : List Lexeme} {blocks others : List Block}

/-- Declarations start with a name. -/
theorem starts_of_declarations (declarations : IsDeclarations front blocks) :
    ∀ lexeme ∈ front.head?, ∃ name, lexeme = .identifier name := by
  cases declarations with
  | nil => exact fun _ inside => nomatch inside
  | cons declaration _ =>
    cases declaration <;>
    · rintro _ ⟨⟩
      exact ⟨_, rfl⟩

/-- Declarations behind a document open no wrapper in it. -/
theorem unwrapped_append (one : ¬ wrapperStart <+: front) (two : ¬ wrapperStart <+: behind)
    (declarations : IsDeclarations behind others) : ¬ wrapperStart <+: front ++ behind := by
  intro opens
  rcases List.prefix_or_prefix_of_prefix opens (List.prefix_append front behind) with whole | ⟨more, split⟩
  · exact one whole
  rw [← split, List.prefix_append_right_inj] at opens
  -- the wrapper would open behind the front, or between its two lexemes
  match front, split with
  | [], split => exact two (split ▸ opens)
  | [_], split =>
    obtain ⟨-, rfl⟩ := List.cons.inj split
    obtain ⟨rest, rfl⟩ := opens
    obtain ⟨name, same⟩ := starts_of_declarations declarations _ rfl
    cases same
  | _ :: _ :: rest, split =>
    obtain ⟨isName, split⟩ := List.cons.inj split
    obtain ⟨isBrace, -⟩ := List.cons.inj split
    exact one ⟨rest, by rw [isName, isBrace]; rfl⟩

/-- The lexemes of two documents, one after the other. -/
theorem IsDocument.append (one : IsDocument front blocks) (two : IsDocument behind others)
    (unwrapped : ¬ wrapperStart <+: front) (unwrappedBehind : ¬ wrapperStart <+: behind) :
    IsDocument (front ++ behind) (blocks ++ others) := by
  rw [isDocument_iff unwrapped] at one
  rw [isDocument_iff unwrappedBehind] at two
  exact .plain (unwrapped_append unwrapped unwrappedBehind two) (one.append two)

/-- The segments of two sources with a newline between them. -/
theorem Cut.joined (one : Cut first front) (two : Cut second behind) :
    Cut (first ++ newline :: second) (front ++ behind) :=
  (one.before_newline second).cut (.cons (.blank (by decide)) two)

end Documents

/-- **Documents without wrappers compose.** With a newline between them they mean the blocks of the first
and then those of the second. -/
theorem compile_joined (first second : Text) (blocks others : List Block)
    (one : compile first none = .ok blocks) (two : compile second none = .ok others)
    (unwrapped : ¬ wrapperStart <+: (scan first).tokens.map Token.lexeme)
    (unwrappedBehind : ¬ wrapperStart <+: (scan second).tokens.map Token.lexeme) :
    compile (first ++ newline :: second) none = .ok (blocks ++ others) := by
  obtain ⟨front, cut, document⟩ := compile_eq_ok_iff.mp one
  obtain ⟨behind, cutBehind, documentBehind⟩ := compile_eq_ok_iff.mp two
  rw [(lexemes_of_cut cut).2] at unwrapped
  rw [(lexemes_of_cut cutBehind).2] at unwrappedBehind
  exact compile_eq_ok_iff.mpr ⟨front ++ behind, cut.joined cutBehind,
    document.append documentBehind unwrapped unwrappedBehind⟩

/-- A document that ends in the word of a wrapper and a comment. -/
def wordSource : Text := "hero layout // \x7b"

/-- A document that ends in a body. -/
def bodySource : Text := "layout(a: 1)"

theorem compile_joined_word :
    compile (wordSource ++ newline :: bodySource) none =
      .ok ([{ typeId := "hero" }, { typeId := "layout" }] ++
        [{ typeId := "layout", config := .ofList [("a", .integer 1)] }]) :=
  compile_joined wordSource bodySource _ _ (by decide +kernel) (by decide +kernel)
    (by decide +kernel) (by decide +kernel)

end BlockPage.Layout
