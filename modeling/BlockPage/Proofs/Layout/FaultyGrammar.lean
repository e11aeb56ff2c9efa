/-
**What any source is cut into.**

A source with lexical faults is a row of pieces, too. A piece without faults is a segment of the lexical
grammar. The others are strings with escapes that mean nothing, strings and comments that are never
closed, numbers that run on or have no value, and code points that begin nothing. What a piece holds
stands at offsets in it: neither lines nor columns are counted here, and nothing is scanned.

* `Found`, `Found.behind`: something at an offset; `Found.position`: where that is.
* `FaultyBody`: what may stand between two quotes, with its faults.
* `Numeral.IsLongest`, `Numeral.Refused`: how far a number goes, and why it may have no value.
* `BeginsNothing`: the code points that are not expected.
* `IsPiece`, `Pieces`: one piece in front of what follows it, and a whole source.
-/

import BlockPage.Proofs.Layout.Grammar

namespace BlockPage.Layout

open CodePoint Number

/-! ### Offsets -/

/-- Something that is found at an offset of a text. -/
structure Found (α : Type) where
  offset : Nat
  item : α
  deriving DecidableEq

/-- The same when a text of the given length stands in front. -/
def Found.behind {α : Type} (length : Nat) (found : Found α) : Found α :=
  ⟨length + found.offset, found.item⟩

/-- Where something is found in a text that begins at a position. -/
def Found.position {α : Type} (begin : Position) (text : Text) (found : Found α) : Position :=
  begin.past (text.take found.offset)

/-- The lexeme that is found in a text, with its position. -/
def Found.token (begin : Position) (text : Text) (found : Found Lexeme) : Token :=
  ⟨found.item, found.position begin text⟩

/-- The fault that is found in a text, with its position. -/
def Found.error (begin : Position) (text : Text) (found : Found Fault) : SourceError :=
  .located (found.position begin text) found.item

theorem error_start (begin : Position) (text : Text) (fault : Fault) :
    Found.error begin text ⟨0, fault⟩ = .located begin fault := rfl

/-- What is found behind a front stands where it does in the back, begun where the front ends. -/
theorem position_behind {α : Type} (begin : Position) (front back : Text) (found : Found α) :
    (found.behind front.length).position begin (front ++ back) =
      found.position (begin.past front) back := by
  rw [Found.position, Found.behind, List.take_length_add_append, Position.past_append]
  rfl

theorem map_error_behind (begin : Position) (front back : Text) (faults : List (Found Fault)) :
    (faults.map (.behind front.length)).map (Found.error begin (front ++ back)) =
      faults.map (Found.error (begin.past front) back) := by
  rw [List.map_map]
  refine List.map_congr_left fun found _ => ?_
  exact congrArg (SourceError.located · found.item) (position_behind begin front back found)

/-- What is found in a text stands where it does when more follows. -/
theorem position_append {α : Type} {found : Found α} {text : Text}
    (within : found.offset ≤ text.length) (begin : Position) (following : Text) :
    found.position begin (text ++ following) = found.position begin text := by
  rw [Found.position, List.take_append_of_le_length within]
  rfl

theorem map_error_append {faults : List (Found Fault)} {text : Text}
    (within : ∀ found ∈ faults, found.offset < text.length) (begin : Position) (following : Text) :
    faults.map (Found.error begin (text ++ following)) = faults.map (Found.error begin text) := by
  refine List.map_congr_left fun found inside => ?_
  exact congrArg (SourceError.located · found.item)
    (position_append (Nat.le_of_lt (within found inside)) begin following)

/-- What is found in the back is found in the whole text. -/
theorem within_behind {α : Type} {items : List (Found α)} {text : Text}
    (within : ∀ found ∈ items, found.offset < text.length) (front : Text) :
    ∀ found ∈ items.map (Found.behind front.length), found.offset < (front ++ text).length := by
  intro found inside
  obtain ⟨original, member, rfl⟩ := List.mem_map.mp inside
  rw [List.length_append]
  exact Nat.add_lt_add_left (within original member) front.length

theorem map_token_behind (begin : Position) (front back : Text) (lexemes : List (Found Lexeme)) :
    (lexemes.map (.behind front.length)).map (Found.token begin (front ++ back)) =
      lexemes.map (Found.token (begin.past front) back) := by
  rw [List.map_map]
  refine List.map_congr_left fun found _ => ?_
  exact congrArg (Token.mk found.item) (position_behind begin front back found)

/-! ### Strings -/

/-- The text begins with the four digits of a code point. -/
def BeginsQuad (text : Text) : Prop :=
  4 ≤ text.length ∧ ∀ digit ∈ text.take 4, isHexDigit digit = true

/-- What may stand between two quotes, with the text that is kept of it and its faults. A fault is at the
backslash of an escape that means nothing: the letter is kept, the mark of a code point is not. -/
inductive FaultyBody (quote : CodePoint) : Text → Text → List (Found Fault) → Prop
  | nil : FaultyBody quote [] [] []
  | plain {point : CodePoint} {body decoded : Text} {faults : List (Found Fault)} :
      point ≠ quote → point ≠ backslash → FaultyBody quote body decoded faults →
      FaultyBody quote (point :: body) (point :: decoded) (faults.map (.behind 1))
  | escape {letter point : CodePoint} {body decoded : Text} {faults : List (Found Fault)} :
      (letter, point) ∈ escapes → FaultyBody quote body decoded faults →
      FaultyBody quote (backslash :: letter :: body) (point :: decoded) (faults.map (.behind 2))
  | unicode {first second third fourth : CodePoint} {body decoded : Text}
      {faults : List (Found Fault)} :
      (∀ digit ∈ [first, second, third, fourth], isHexDigit digit = true) →
      FaultyBody quote body decoded faults →
      FaultyBody quote (backslash :: letterU :: first :: second :: third :: fourth :: body)
        (ofDigits 16 ([first, second, third, fourth].map hexValue) :: decoded)
        (faults.map (.behind 6))
  | badEscape {letter : CodePoint} {body decoded : Text} {faults : List (Found Fault)} :
      letter ∉ escapes.map Prod.fst → letter ≠ letterU → FaultyBody quote body decoded faults →
      FaultyBody quote (backslash :: letter :: body) (letter :: decoded)
        (⟨0, .badEscape letter⟩ :: faults.map (.behind 2))
  | badUnicode {body decoded : Text} {faults : List (Found Fault)} : ¬ BeginsQuad body →
      FaultyBody quote body decoded faults →
      FaultyBody quote (backslash :: letterU :: body) decoded
        (⟨0, .badUnicodeEscape⟩ :: faults.map (.behind 2))

/-! ### Numbers -/

namespace Numeral

/-- No longer number stands at the start of the number and what follows it. -/
def IsLongest (numeral : Numeral) (following : Text) : Prop :=
  ∀ other : Numeral, other.IsWritten → other.text <+: numeral.text ++ following →
    other.text.length ≤ numeral.text.length

/-- Why the number has no value: it is an integer of too many digits, or a floating-point number that is
not finite. -/
inductive Refused (numeral : Numeral) : Fault → Prop
  | tooLong : numeral.fraction = [] → numeral.exponent = [] →
      Integer.digitLimit < numeral.whole.length →
      Refused numeral (.numberTooLong numeral.text.length)
  | outOfRange : numeral.fraction ≠ [] ∨ numeral.exponent ≠ [] →
      (Binary64.ofDecimal (numeral.sign ≠ []) (digitValues (numeral.whole ++ numeral.fraction))
        (numeral.power - numeral.fraction.length)).isFinite = false →
      Refused numeral (.numberOutOfRange numeral.text)

end Numeral

/-! ### Pieces -/

/-- The code point begins no other piece in front of what follows it. -/
structure BeginsNothing (point : CodePoint) (following : Text) : Prop where
  blank : Text.isBlank point = false
  mark : point ∉ marks.map Prod.fst
  quote : point ≠ quotationMark ∧ point ≠ apostrophe
  digit : isDigit point = false
  letter : startsIdentifier point = false
  comment : point = slash → Stops (fun next => next = slash || next = asterisk) following
  minus : point = hyphen → Stops isDigit following

/-- A piece in front of what follows it, with its lexeme if it has one, and its faults. -/
inductive IsPiece : Text → Text → Option Lexeme → List (Found Fault) → Prop
  | segment {written following : Text} {lexeme : Option Lexeme} :
      IsSegment written following lexeme → IsPiece written following lexeme []
  | string {quote : CodePoint} {body decoded following : Text} {faults : List (Found Fault)} :
      quote = quotationMark ∨ quote = apostrophe → FaultyBody quote body decoded faults →
      IsPiece (quote :: (body ++ [quote])) following (some (.string decoded))
        (faults.map (.behind 1))
  | openString {quote : CodePoint} {body decoded last : Text} {faults : List (Found Fault)} :
      quote = quotationMark ∨ quote = apostrophe → FaultyBody quote body decoded faults →
      last = [] ∨ last = [backslash] →
      IsPiece (quote :: (body ++ last)) [] none
        (faults.map (.behind 1) ++ [⟨0, .unterminatedString⟩])
  | openComment {content : Text} : ¬ [asterisk, slash] <:+: content →
      IsPiece (slash :: asterisk :: content) [] none [⟨0, .unterminatedComment⟩]
  | malformed {numeral : Numeral} {tail following : Text} : numeral.IsWritten →
      numeral.IsLongest (tail ++ following) → tail ≠ [] →
      (∀ point ∈ tail, spoilsNumber point = true) → Stops spoilsNumber following →
      IsPiece (numeral.text ++ tail) following none [⟨0, .malformedNumber (numeral.text ++ tail)⟩]
  | refused {numeral : Numeral} {fault : Fault} {following : Text} : numeral.IsWritten →
      Stops spoilsNumber following → numeral.Refused fault →
      IsPiece numeral.text following none [⟨0, fault⟩]
  | unexpected {point : CodePoint} {following : Text} : BeginsNothing point following →
      IsPiece [point] following none [⟨0, .unexpectedPoint point⟩]

/-- A source cut into pieces, with its lexemes and its faults in order. -/
inductive Pieces : Text → List (Found Lexeme) → List (Found Fault) → Prop
  | nil : Pieces [] [] []
  | cons {written following : Text} {lexeme : Option Lexeme} {lexemes : List (Found Lexeme)}
      {faults others : List (Found Fault)} : IsPiece written following lexeme faults →
      Pieces following lexemes others →
      Pieces (written ++ following)
        (lexeme.toList.map (Found.mk 0) ++ lexemes.map (.behind written.length))
        (faults ++ others.map (.behind written.length))

end BlockPage.Layout
