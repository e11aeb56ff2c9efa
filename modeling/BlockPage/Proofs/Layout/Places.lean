/-
**Every position that is reported is the true one.**

The scanner moves a position along with the source, one code point at a time, and keeps the positions of
what it finds. The newlines before an offset and the code points behind the last of them say the same at
once.

* `Position.ofOffset`, `past_start_eq`: the position of an offset.
* `Fault.StandsAt`, `Pieces.stands`: what a fault is about is what stands at its offset.
* `Pieces.reads`: the lexeme at an offset is what the source means there.
* `located_of_readTokens`: the fault of a document is at one of its tokens.
* `scan_places`: all of it for any source.
-/

import BlockPage.Layout.Compile
import BlockPage.Proofs.Layout.FaultyScanning
import BlockPage.Proofs.Layout.FirstFault
import Mathlib.Data.List.DropRight

namespace BlockPage.Layout

open CodePoint Number

/-! ### Lines and columns -/

/-- The position of an offset. The newlines before it count the lines, and the code points behind the last
of them the columns. -/
def Position.ofOffset (source : Text) (offset : Nat) : Position :=
  ⟨1 + (source.take offset).count newline,
    1 + ((source.take offset).rtakeWhile (· ≠ newline)).length⟩

/-- Lines are counted by newlines and columns from the last of them. -/
theorem past_start_eq (text : Text) :
    Position.start.past text =
      ⟨1 + text.count newline, 1 + (text.rtakeWhile (· ≠ newline)).length⟩ := by
  -- from behind, as the position is that of the last code point
  induction text using List.reverseRecOn with
  | nil => rfl
  | append_singleton text point ih =>
    rw [Position.past_append, ih, Position.past_cons, Position.past_nil, Position.after,
      List.count_append]
    by_cases isNewline : point = newline
    · subst isNewline
      rw [if_pos rfl, List.rtakeWhile_concat_neg _ _ _ (by decide)]
      simp [Nat.add_assoc]
    · rw [if_neg isNewline, List.rtakeWhile_concat_pos _ _ _ (by simpa using isNewline)]
      simp [isNewline, Nat.add_assoc]

/-- What is found in a source stands at the position of its offset. -/
theorem position_start {α : Type} (source : Text) (found : Found α) :
    found.position .start source = .ofOffset source found.offset :=
  past_start_eq _

theorem finish_start (source : Text) :
    Position.start.past source = .ofOffset source source.length := by
  rw [past_start_eq, Position.ofOffset, List.take_length]

/-! ### What stands at an offset -/

/-- What the fault is about begins the text: the code point that is not expected, the number, the opening
quote or mark of what is not closed, the backslash of the escape. -/
inductive Fault.StandsAt : Fault → Text → Prop
  | unexpected (point : CodePoint) (rest : Text) : StandsAt (.unexpectedPoint point) (point :: rest)
  | openComment (rest : Text) : StandsAt .unterminatedComment (slash :: asterisk :: rest)
  | openString {quote : CodePoint} (rest : Text) : quote = quotationMark ∨ quote = apostrophe →
      StandsAt .unterminatedString (quote :: rest)
  | badEscape (letter : CodePoint) (rest : Text) :
      StandsAt (.badEscape letter) (backslash :: letter :: rest)
  | badUnicode (rest : Text) : StandsAt .badUnicodeEscape (backslash :: letterU :: rest)
  | malformed (written rest : Text) : StandsAt (.malformedNumber written) (written ++ rest)
  | tooLong {numeral : Numeral} (rest : Text) : numeral.IsWritten →
      StandsAt (.numberTooLong numeral.text.length) (numeral.text ++ rest)
  | outOfRange (written rest : Text) : StandsAt (.numberOutOfRange written) (written ++ rest)

/-- Each fault is about what stands at its offset. -/
def AllStand (faults : List (Found Fault)) (text : Text) : Prop :=
  ∀ found ∈ faults, found.item.StandsAt (text.drop found.offset)

section Stands

variable {faults : List (Found Fault)} {text source written following : Text}

/-- A fault stands where it does when more follows, since it shows in what it blames. -/
theorem Fault.StandsAt.append {fault : Fault} (stands : fault.StandsAt text) (following : Text) :
    fault.StandsAt (text ++ following) := by
  cases stands with
  | unexpected point rest => exact .unexpected point (rest ++ following)
  | openComment rest => exact .openComment (rest ++ following)
  | openString rest quotes => exact .openString (rest ++ following) quotes
  | badEscape letter rest => exact .badEscape letter (rest ++ following)
  | badUnicode rest => exact .badUnicode (rest ++ following)
  | malformed written rest =>
    rw [List.append_assoc]
    exact .malformed written (rest ++ following)
  | tooLong rest isWritten =>
    rw [List.append_assoc]
    exact .tooLong (rest ++ following) isWritten
  | outOfRange written rest =>
    rw [List.append_assoc]
    exact .outOfRange written (rest ++ following)

theorem AllStand.append (stand : AllStand faults text)
    (within : ∀ found ∈ faults, found.offset < text.length) (following : Text) :
    AllStand faults (text ++ following) := by
  intro found inside
  rw [List.drop_append_of_le_length (Nat.le_of_lt (within found inside))]
  exact (stand found inside).append following

/-- Faults of the back stand in the whole text. -/
theorem AllStand.behind (stand : AllStand faults text) (front : Text) :
    AllStand (faults.map (.behind front.length)) (front ++ text) := by
  intro found inside
  obtain ⟨original, member, rfl⟩ := List.mem_map.mp inside
  rw [Found.behind, List.drop_length_add_append]
  exact stand original member

theorem allStand_alone {fault : Fault} (stands : fault.StandsAt text) : AllStand [⟨0, fault⟩] text :=
  List.forall_mem_singleton.mpr stands

theorem allStand_append {others : List (Found Fault)} (one : AllStand faults text)
    (two : AllStand others text) : AllStand (faults ++ others) text :=
  List.forall_mem_append.mpr ⟨one, two⟩

/-- Every fault of a string body shows at its offset. -/
theorem FaultyBody.stands {quote : CodePoint} {body decoded : Text}
    (isBody : FaultyBody quote body decoded faults) : AllStand faults body := by
  induction isBody with
  | nil => exact List.forall_mem_nil _
  | @plain point _ _ _ _ _ _ ih => exact ih.behind [point]
  | @escape letter _ _ _ _ _ _ ih => exact ih.behind [backslash, letter]
  | @unicode first second third fourth _ _ _ _ _ ih =>
    exact ih.behind [backslash, letterU, first, second, third, fourth]
  | @badEscape letter body _ _ _ _ _ ih =>
    exact allStand_append (allStand_alone (.badEscape letter body)) (ih.behind [backslash, letter])
  | @badUnicode body _ _ _ _ ih =>
    exact allStand_append (allStand_alone (.badUnicode body)) (ih.behind [backslash, letterU])

/-- Every fault of a piece shows at its offset. -/
theorem IsPiece.stands {lexeme : Option Lexeme} (piece : IsPiece written following lexeme faults) :
    AllStand faults written := by
  cases piece with
  | segment _ => exact List.forall_mem_nil _
  | @string quote _ _ _ _ _ isBody => exact (isBody.stands.append isBody.within [quote]).behind [quote]
  | @openString quote body _ last _ quotes isBody _ =>
    exact allStand_append ((isBody.stands.append isBody.within last).behind [quote])
      (allStand_alone (.openString (body ++ last) quotes))
  | @openComment content _ => exact allStand_alone (.openComment content)
  | @malformed numeral tail _ _ _ _ _ _ =>
    have stands := Fault.StandsAt.malformed (numeral.text ++ tail) []
    rw [List.append_nil] at stands
    exact allStand_alone stands
  | @refused numeral fault _ isWritten _ refused =>
    refine allStand_alone ?_
    rw [← List.append_nil numeral.text]
    cases refused with
    | tooLong _ _ _ => exact .tooLong [] isWritten
    | outOfRange _ _ => exact .outOfRange numeral.text []
  | @unexpected point _ _ => exact allStand_alone (.unexpected point [])

/-- The faults of a source are about what stands at their offsets. -/
theorem Pieces.stands {lexemes : List (Found Lexeme)} (pieces : Pieces source lexemes faults) :
    AllStand faults source := by
  induction pieces with
  | nil => exact List.forall_mem_nil _
  | @cons written following _ _ _ _ piece _ ih =>
    exact allStand_append (piece.stands.append piece.within following) (ih.behind written)

/-- The lexemes of a source are the pieces at their offsets. -/
theorem Pieces.reads {lexemes : List (Found Lexeme)} (pieces : Pieces source lexemes faults) :
    ∀ found ∈ lexemes, ∃ written following others,
      source.drop found.offset = written ++ following ∧
        IsPiece written following (some found.item) others := by
  induction pieces with
  | nil => exact List.forall_mem_nil _
  | @cons written following lexeme lexemes faults _ piece _ ih =>
    refine List.forall_mem_append.mpr ⟨fun found inside => ?_, fun found inside => ?_⟩
    · obtain ⟨lexeme, member, rfl⟩ := List.mem_map.mp inside
      rw [Option.mem_toList] at member
      cases member
      exact ⟨written, following, faults, rfl, piece⟩
    · obtain ⟨original, member, rfl⟩ := List.mem_map.mp inside
      rw [Found.behind, List.drop_length_add_append]
      exact ih original member

end Stands

/-! ### Whole sources -/

/-- The tokens, the end and the faults of a source have the positions of their offsets. -/
structure Scan.IsPlaced (scanned : Scan) (source : Text) (lexemes : List (Found Lexeme))
    (faults : List (Found Fault)) : Prop where
  tokens : scanned.tokens = lexemes.map fun found => ⟨found.item, .ofOffset source found.offset⟩
  finish : scanned.finish = .ofOffset source source.length
  errors : scanned.errors =
    faults.map fun found => .located (.ofOffset source found.offset) found.item
  ascending : (lexemes.map Found.offset ++ [source.length]).Pairwise (· < ·)
  reads : ∀ found ∈ lexemes, ∃ written following others,
    source.drop found.offset = written ++ following ∧
      IsPiece written following (some found.item) others
  stands : AllStand faults source

/-- What is scanned from pieces has their places. -/
theorem isPlaced_of_pieces {source : Text} {lexemes : List (Found Lexeme)}
    {faults : List (Found Fault)} (pieces : Pieces source lexemes faults) :
    (scan source).IsPlaced source lexemes faults := by
  have scanned := scan_of_pieces pieces .start
  rw [← scan] at scanned
  refine ⟨?_, ?_, ?_, pieces.ascending.1, pieces.reads, pieces.stands⟩
  · rw [scanned]
    exact List.map_congr_left fun found _ => congrArg (Token.mk _) (position_start source found)
  · rw [scanned]
    exact finish_start source
  · rw [scanned]
    exact List.map_congr_left fun found _ =>
      congrArg (SourceError.located · _) (position_start source found)

/-- The fault of a document is at one of its tokens. -/
theorem located_of_readTokens {tokens : List Token} {error : SourceError}
    (read : readTokens tokens = .error error) :
    ∃ token ∈ tokens, ∃ fault, error = .located token.position fault := by
  cases firstFault_of_readTokens read with
  | @token before after token fault same _ _ =>
    exact ⟨token, by rw [same]; exact List.mem_append_right _ (.head _), fault, rfl⟩
  | @incomplete token fault inside _ _ => exact ⟨token, inside, fault, rfl⟩

/-- What is wrong with a source: its length, all that scanning finds, or one fault at a token. -/
inductive Refuses (source : Text) (limit : Option Int) : List SourceError → Prop
  | length {most : Int} : limit = some most → most < source.length →
      Refuses source limit [⟨.tooLong source.length (Integer.text most), none⟩]
  | lexical : (scan source).errors ≠ [] → Refuses source limit (scan source).errors
  | syntactic {token : Token} (fault : Fault) : (scan source).errors = [] →
      token ∈ (scan source).tokens → Refuses source limit [.located token.position fault]

theorem refuses_of_compileScan {source : Text} {limit : Option Int} {errors : List SourceError}
    (compiled : compileScan (scan source) = .error errors) : Refuses source limit errors := by
  rcases compileScan_eq_error_iff.mp compiled with ⟨faulty, rfl⟩ | ⟨clean, error, read, rfl⟩
  · exact .lexical faulty
  · obtain ⟨token, inside, fault, rfl⟩ := located_of_readTokens read
    exact .syntactic fault clean inside

theorem refuses_of_compile {source : Text} {limit : Option Int} {errors : List SourceError}
    (compiled : compile source limit = .error errors) : Refuses source limit errors := by
  cases limit with
  | none => exact refuses_of_compileScan compiled
  | some most =>
    unfold compile at compiled
    dsimp only at compiled
    split at compiled
    · rename_i exceeded
      cases compiled
      exact .length rfl exceeded
    · exact refuses_of_compileScan compiled

/-- **Every position is the true one.** However a source is cut into pieces, and it always can be, its
tokens, its end and its lexical faults have the positions of their offsets, and the tokens ascend. A
syntactic fault has the position of a token. -/
theorem scan_places (source : Text) :
    (∃ lexemes faults, Pieces source lexemes faults) ∧
      (∀ lexemes faults, Pieces source lexemes faults →
        (scan source).IsPlaced source lexemes faults) ∧
      ∀ limit errors, compile source limit = .error errors → Refuses source limit errors :=
  ⟨exists_pieces source, fun _ _ => isPlaced_of_pieces, fun _ _ => refuses_of_compile⟩

/-- A source with a bad escape in its second line, and a code point that is not expected behind it. -/
def untidySource : Text := "a\n'\\q' @"

theorem pieces_untidySource :
    Pieces untidySource [⟨0, .identifier [0x61]⟩, ⟨2, .string [0x71]⟩]
      [⟨3, .badEscape 0x71⟩, ⟨7, .unexpectedPoint 0x40⟩] := by
  have same : untidySource = [0x61] ++ ([newline] ++
      (apostrophe :: ([backslash, 0x71] ++ [apostrophe]) ++ ([space] ++ ([0x40] ++ [])))) := by
    decide +kernel
  have body : FaultyBody apostrophe [backslash, 0x71] [0x71] [⟨0, .badEscape 0x71⟩] :=
    .badEscape (by decide) (by decide) .nil
  have name : IsWord [0x61] (newline :: apostrophe :: [backslash, 0x71, apostrophe, space, 0x40]) :=
    ⟨⟨0x61, [], rfl, by decide⟩, by decide, stops_cons_iff.mpr (by decide)⟩
  have alone : BeginsNothing 0x40 [] :=
    ⟨by decide, by decide, by decide, by decide, by decide, fun _ => stops_nil, fun _ => stops_nil⟩
  rw [same]
  exact .cons (.segment (.identifier name (by decide)))
    (.cons (.segment (.blank (by decide)))
      (.cons (.string (.inr rfl) body)
        (.cons (.segment (.blank (by decide))) (.cons (.unexpected alone) .nil))))

theorem scan_places_untidy :
    (scan untidySource).tokens =
        [⟨.identifier [0x61], ⟨1, 1⟩⟩, ⟨.string [0x71], ⟨2, 1⟩⟩] ∧
      (scan untidySource).errors =
        [.located ⟨2, 2⟩ (.badEscape 0x71), .located ⟨2, 6⟩ (.unexpectedPoint 0x40)] ∧
      (scan untidySource).finish = ⟨2, 7⟩ ∧
      Refuses untidySource none (scan untidySource).errors := by
  obtain ⟨-, placed, refused⟩ := scan_places untidySource
  obtain ⟨tokens, finish, errors, -, -, -⟩ := placed _ _ pieces_untidySource
  have compiled : compile untidySource none = .error (scan untidySource).errors := by decide +kernel
  exact ⟨tokens.trans (by decide +kernel), errors.trans (by decide +kernel),
    finish.trans (by decide +kernel), refused none _ compiled⟩

end BlockPage.Layout
