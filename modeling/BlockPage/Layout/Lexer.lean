/-
**From source text to tokens.**

The source is cut into segments: blanks, comments, and lexemes. Every fault is collected and reading
goes on behind it, so one fault hides no later one.

* `scanString`, `skipComment`, `numeral`: the segments with inner structure.
* `segment`: the segment that starts at a code point, with what follows it; `segment_rest_le`: it takes
  at least that code point.
* `scan`: the tokens of a source, the position of its end, and its faults in order; `scanFrom_eq`: what
  has been read stands in front of what is still to be read.
-/

import BlockPage.Layout.Fault
import BlockPage.Layout.Lexeme
import BlockPage.Text.Parts

namespace BlockPage.Layout

open CodePoint Number

/-- What reading a whole source gives. -/
structure Scan where
  tokens : List Token
  finish : Position
  errors : List SourceError
  deriving DecidableEq, Repr

/-- A part of the source: its lexeme if it has one, its faults, and where and with what it goes on. -/
structure Segment where
  lexeme : Option Lexeme
  errors : List SourceError
  position : Position
  rest : Text

/-! ### Strings -/

/-- The code point that a backslash and this one stand for. -/
def simpleEscape? (point : CodePoint) : Option CodePoint :=
  if point = backslash || point = quotationMark || point = apostrophe then some point
  else if point = 0x6E then some newline
  else if point = 0x72 then some carriageReturn
  else if point = 0x74 then some tab
  else if point = zero then some null
  else none

/-- The code point with the given four hexadecimal digits. -/
def hexQuad? (first second third fourth : CodePoint) : Option CodePoint :=
  if [first, second, third, fourth].all isHexDigit then
    some (ofDigits 16 ([first, second, third, fourth].map hexValue))
  else none

/-- The rest of a string behind its opening quote. `decoded` and `errors` are what has been read, in
reverse; the opening quote is at `opened`. -/
def scanString (opened : Position) (quote : CodePoint) :
    Position → Text → List SourceError → Text → Segment
  | position, _, errors, [] =>
    ⟨none, (.located opened .unterminatedString :: errors).reverse, position, []⟩
  | position, decoded, errors, first :: rest =>
    let next := position.after first
    if first = quote then ⟨some (.string decoded.reverse), errors.reverse, next, rest⟩
    else if first ≠ backslash then scanString opened quote next (first :: decoded) errors rest
    else match rest with
      | [] => ⟨none, (.located opened .unterminatedString :: errors).reverse, next, []⟩
      | escaped :: tail =>
        let behind := next.after escaped
        match simpleEscape? escaped with
        | some point => scanString opened quote behind (point :: decoded) errors tail
        | none =>
          if escaped ≠ letterU then
            scanString opened quote behind (escaped :: decoded)
              (.located position (.badEscape escaped) :: errors) tail
          else match tail with
            | first :: second :: third :: fourth :: remaining =>
              match hexQuad? first second third fourth with
              | some point =>
                scanString opened quote (behind.past [first, second, third, fourth])
                  (point :: decoded) errors remaining
              | none =>
                scanString opened quote behind decoded
                  (.located position .badUnicodeEscape :: errors)
                  (first :: second :: third :: fourth :: remaining)
            | short =>
              scanString opened quote behind decoded
                (.located position .badUnicodeEscape :: errors) short

/-! ### Comments -/

/-- What follows the end of a block comment, and where. -/
def skipComment : Position → Text → Option (Position × Text)
  | _, [] => none
  | position, asterisk :: slash :: rest => some (position.past [asterisk, slash], rest)
  | position, first :: rest => skipComment (position.after first) rest

/-! ### Numbers -/

/-- The parts of a number. The mark is the letter of the exponent with its sign. -/
structure Numeral where
  sign : Text
  whole : Text
  fraction : Text
  mark : Text
  exponent : Text
  deriving DecidableEq, Repr

namespace Numeral

/-- The number as it is written. -/
def text (numeral : Numeral) : Text :=
  numeral.sign ++ numeral.whole
    ++ (if numeral.fraction.isEmpty then [] else fullStop :: numeral.fraction)
    ++ numeral.mark ++ numeral.exponent

/-- The number has neither fraction nor exponent. -/
def isInteger (numeral : Numeral) : Bool :=
  numeral.fraction.isEmpty && numeral.exponent.isEmpty

/-- The value of the number: an integer of at most 4300 digits or a finite floating-point number. -/
def value (numeral : Numeral) : Except Fault Lexeme :=
  let negative := !numeral.sign.isEmpty
  if numeral.isInteger then
    if numeral.whole.length > Integer.digitLimit then
      .error (.numberTooLong numeral.text.length)
    else
      let magnitude := ofDecimalText numeral.whole
      .ok (.integer (if negative then -(magnitude : Int) else magnitude))
  else
    let power := ofDecimalText numeral.exponent
    let exponent : Int := if numeral.mark.contains hyphen then -(power : Int) else power
    let number := Binary64.ofDecimal negative (digitValues (numeral.whole ++ numeral.fraction))
      (exponent - numeral.fraction.length)
    if number.isFinite then .ok (.float number) else .error (.numberOutOfRange numeral.text)

end Numeral

/-- The digits at the start of a text, and what follows them. -/
def digits (source : Text) : Text × Text := (source.takeWhile isDigit, source.dropWhile isDigit)

/-- The digits behind a point, if there are any. -/
def fractionPart (source : Text) : Text × Text :=
  match source with
  | fullStop :: digit :: rest =>
    if isDigit digit then digits (digit :: rest) else ([], source)
  | _ => ([], source)

/-- The mark and the digits of an exponent, if there are any. -/
def exponentPart (source : Text) : Text × Text × Text :=
  match source with
  | letter :: next :: rest =>
    if letter = letterE || letter = 0x45 then
      if isDigit next then
        let (shown, remaining) := digits (next :: rest)
        ([letter], shown, remaining)
      else if (next = plus || next = hyphen) && rest.head?.any isDigit then
        let (shown, remaining) := digits rest
        ([letter, next], shown, remaining)
      else ([], [], source)
    else ([], [], source)
  | _ => ([], [], source)

/-- The longest number at the start of a source, and what follows it. -/
def numeral (source : Text) : Numeral × Text :=
  let (sign, unsigned) := match source with
    | hyphen :: rest => ([hyphen], rest)
    | _ => ([], source)
  let (whole, behindWhole) := digits unsigned
  let (fraction, behindFraction) := fractionPart behindWhole
  let (mark, exponent, rest) := exponentPart behindFraction
  (⟨sign, whole, fraction, mark, exponent⟩, rest)

/-- A code point that may not follow a number. -/
def spoilsNumber (point : CodePoint) : Bool := continuesIdentifier point || point == fullStop

/-- The segment of a number. What spoils it belongs to it. -/
def scanNumber (position : Position) (source : Text) : Segment :=
  let (number, rest) := numeral source
  if rest.head?.any spoilsNumber then
    let written := number.text ++ rest.takeWhile spoilsNumber
    ⟨none, [.located position (.malformedNumber written)], position.past written,
      rest.dropWhile spoilsNumber⟩
  else
    let behind := position.past number.text
    match number.value with
    | .ok lexeme => ⟨some lexeme, [], behind, rest⟩
    | .error fault => ⟨none, [.located position fault], behind, rest⟩

/-! ### Segments -/

/-- The lexemes of one code point. -/
def punctuation? (point : CodePoint) : Option Lexeme :=
  if point = colon then some .colon
  else if point = comma then some .comma
  else if point = openParenthesis then some (.opening .parenthesis)
  else if point = closeParenthesis then some (.closing .parenthesis)
  else if point = openBrace then some (.opening .brace)
  else if point = closeBrace then some (.closing .brace)
  else none

/-- The lexeme of a word. -/
def word (text : Text) : Lexeme :=
  match keyword? text with
  | some value => .boolean value
  | none => .identifier text

/-- The segment at the start of a source that is not empty. -/
def segment (position : Position) (first : CodePoint) (rest : Text) : Segment :=
  let next := position.after first
  if Text.isBlank first then ⟨none, [], next, rest⟩
  else if first = slash && rest.head? = some slash then
    let comment := rest.takeWhile (· ≠ newline)
    ⟨none, [], next.past comment, rest.dropWhile (· ≠ newline)⟩
  else if first = slash && rest.head? = some asterisk then
    match skipComment (next.after asterisk) (rest.drop 1) with
    | some (behind, remaining) => ⟨none, [], behind, remaining⟩
    | none => ⟨none, [.located position .unterminatedComment], next.past rest, []⟩
  else match punctuation? first with
    | some lexeme => ⟨some lexeme, [], next, rest⟩
    | none =>
      if first = quotationMark || first = apostrophe then
        scanString position first next [] [] rest
      else if isDigit first || (first = hyphen && rest.head?.any isDigit) then
        scanNumber position (first :: rest)
      else if startsIdentifier first then
        let tail := rest.takeWhile continuesIdentifier
        ⟨some (word (first :: tail)), [], next.past tail, rest.dropWhile continuesIdentifier⟩
      else ⟨none, [.located position (.unexpectedPoint first)], next, rest⟩

/-! ### Progress -/

theorem scanString_rest_le (opened : Position) (quote : CodePoint) (position : Position)
    (decoded : Text) (errors : List SourceError) (source : Text) :
    (scanString opened quote position decoded errors source).rest.length ≤ source.length := by
  fun_induction scanString opened quote position decoded errors source <;>
    simp_all <;> omega

theorem skipComment_rest_le {position behind : Position} {source remaining : Text}
    (found : skipComment position source = some (behind, remaining)) :
    remaining.length ≤ source.length := by
  fun_induction skipComment position source with
  | case1 => simp at found
  | case2 => simp at found; simp [found.2]; omega
  | case3 _ _ _ _ step => have := step found; simp; omega

theorem dropWhile_le (test : CodePoint → Bool) (source : Text) :
    (source.dropWhile test).length ≤ source.length :=
  (List.dropWhile_sublist test).length_le

theorem fractionPart_rest_le (source : Text) :
    (fractionPart source).2.length ≤ source.length := by
  unfold fractionPart digits
  split
  · split
    · have := dropWhile_le isDigit
      rename_i digit rest _
      have := this (digit :: rest)
      simp at this ⊢; omega
    · simp
  · simp

theorem exponentPart_rest_le (source : Text) :
    (exponentPart source).2.2.length ≤ source.length := by
  unfold exponentPart digits
  split
  · rename_i letter next rest
    have long := dropWhile_le isDigit (next :: rest)
    have short := dropWhile_le isDigit rest
    simp only [List.length_cons] at long
    split
    · split
      · simp only [List.length_cons]; omega
      · split
        · simp only [List.length_cons]; omega
        · simp
    · simp
  · simp

theorem numeral_rest_lt {first : CodePoint} {rest : Text}
    (starts : (isDigit first || (first = hyphen && rest.head?.any isDigit)) = true) :
    (numeral (first :: rest)).2.length ≤ rest.length := by
  unfold numeral
  split
  rename_i sign unsigned parts
  have whole : (unsigned.dropWhile isDigit).length ≤ rest.length := by
    split at parts
    · rename_i tail same
      cases parts; cases same
      exact dropWhile_le _ _
    · cases parts
      rename_i other
      have digit : isDigit first = true := by
        by_cases sign : first = hyphen
        · subst sign; exact absurd rfl (other rest)
        · simpa [sign] using starts
      rw [List.dropWhile_cons_of_pos digit]
      exact dropWhile_le _ _
  have fraction := fractionPart_rest_le (unsigned.dropWhile isDigit)
  have exponent := exponentPart_rest_le (fractionPart (unsigned.dropWhile isDigit)).2
  exact Nat.le_trans exponent (Nat.le_trans fraction whole)

theorem scanNumber_rest_le {position : Position} {first : CodePoint} {rest : Text}
    (starts : (isDigit first || (first = hyphen && rest.head?.any isDigit)) = true) :
    (scanNumber position (first :: rest)).rest.length ≤ rest.length := by
  have small := numeral_rest_lt starts
  have shorter := dropWhile_le spoilsNumber (numeral (first :: rest)).2
  unfold scanNumber
  dsimp only
  split
  · dsimp only; omega
  · split <;> exact small

/-- A segment takes at least the code point it starts with. -/
theorem segment_rest_le (position : Position) (first : CodePoint) (rest : Text) :
    (segment position first rest).rest.length ≤ rest.length := by
  unfold segment
  dsimp only
  split
  · simp
  split
  · exact dropWhile_le _ _
  split
  · split
    · rename_i found
      have := skipComment_rest_le found
      simp at this; dsimp only; omega
    · simp
  split
  · simp
  split
  · exact scanString_rest_le ..
  split
  · rename_i starts
    exact scanNumber_rest_le starts
  split
  · exact dropWhile_le _ _
  · simp

/-! ### Whole sources -/

/-- The scan of the rest of a source. `tokens` and `errors` are what has been read, in reverse. -/
def scanFrom (position : Position) (tokens : List Token) (errors : List SourceError) :
    Text → Scan
  | [] => ⟨tokens.reverse, position, errors.reverse⟩
  | first :: rest =>
    let part := segment position first rest
    have := segment_rest_le position first rest
    scanFrom part.position
      (match part.lexeme with
        | some lexeme => ⟨lexeme, position⟩ :: tokens
        | none => tokens)
      (part.errors.reverse ++ errors) part.rest
  termination_by source => source.length
  decreasing_by simp only [List.length_cons]; omega

theorem scanFrom_nil (position : Position) (tokens : List Token) (errors : List SourceError) :
    scanFrom position tokens errors [] = ⟨tokens.reverse, position, errors.reverse⟩ := by
  rw [scanFrom.eq_def]

theorem scanFrom_cons (position : Position) (tokens : List Token) (errors : List SourceError)
    (first : CodePoint) (rest : Text) :
    scanFrom position tokens errors (first :: rest) =
      scanFrom (segment position first rest).position
        (match (segment position first rest).lexeme with
          | some lexeme => ⟨lexeme, position⟩ :: tokens
          | none => tokens)
        ((segment position first rest).errors.reverse ++ errors)
        (segment position first rest).rest := by
  rw [scanFrom.eq_def]

/-- What has been read stands in front of what is still to be read. -/
theorem scanFrom_eq (position : Position) (tokens : List Token) (errors : List SourceError)
    (source : Text) :
    scanFrom position tokens errors source =
      ⟨tokens.reverse ++ (scanFrom position [] [] source).tokens,
        (scanFrom position [] [] source).finish,
        errors.reverse ++ (scanFrom position [] [] source).errors⟩ := by
  induction length : source.length using Nat.strongRecOn generalizing position tokens errors source with
  | _ bound step =>
    cases source with
    | nil => simp [scanFrom_nil]
    | cons first rest =>
      have shorter := segment_rest_le position first rest
      have smaller : (segment position first rest).rest.length < bound := by
        rw [← length, List.length_cons]; omega
      rw [scanFrom_cons, scanFrom_cons position [] [], step _ smaller _ _ _ _ rfl]
      cases (segment position first rest).lexeme with
      | none =>
        dsimp only
        rw [step _ smaller _ [] ((segment position first rest).errors.reverse ++ []) _ rfl]
        simp
      | some lexeme =>
        dsimp only
        rw [step _ smaller _ [⟨lexeme, position⟩]
          ((segment position first rest).errors.reverse ++ []) _ rfl]
        simp

/-- The tokens and the faults of a source. -/
def scan (source : Text) : Scan := scanFrom .start [] [] source

end BlockPage.Layout
