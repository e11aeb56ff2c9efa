/-
**What can be wrong with a source.**

* `Fault`: the causes, lexical, syntactic and of size; `Fault.message`: their wording.
* `SourceError`: a fault at a position, or without one when the source is too long as a whole.
-/

import BlockPage.Layout.Lexeme

namespace BlockPage.Layout

/-- A cause for which a source is refused. -/
inductive Fault where
  | unexpectedPoint (point : CodePoint)
  | unterminatedComment
  | unterminatedString
  | badUnicodeEscape
  | badEscape (point : CodePoint)
  | malformedNumber (written : Text)
  | numberTooLong (length : Nat)
  | numberOutOfRange (written : Text)
  | unterminatedLayout
  | trailing (found : Lexeme)
  | expectedName (found : Lexeme)
  | unterminatedBody (bracket : Bracket)
  | expectedKey (found : Lexeme)
  | missingValue (key : Text)
  /-- The source is longer than a limit, which is shown as given. -/
  | tooLong (length : Nat) (limit : Text)
  deriving DecidableEq, Repr

/-- What is said of a text that is longer than allowed. -/
def lengthMessage (subject : Text) (length : Nat) (limit : Text) : Text :=
  Text.concat [subject, " length ", Number.decimal length, " exceeds maximum ", limit,
    " characters"]

/-- The wording of a fault. -/
def Fault.message : Fault → Text
  | unexpectedPoint point => Text.ofString "Unexpected character " ++ Text.quoted [point]
  | unterminatedComment => "Unterminated comment"
  | unterminatedString => "Unterminated string"
  | badUnicodeEscape => "Invalid \\u escape, expected 4 hex digits"
  | badEscape point => Text.concat ["Invalid escape sequence '\\", [point], "'"]
  | malformedNumber written => Text.ofString "Malformed number " ++ Text.quoted written
  | numberTooLong length =>
    Text.concat ["Number literal too long (", Number.decimal length, " characters)"]
  | numberOutOfRange written => Text.ofString "Number out of range " ++ Text.quoted written
  | unterminatedLayout => "Unterminated 'layout' block, missing '\x7d'"
  | trailing found => Text.concat ["Unexpected ", found.description, " after 'layout' block"]
  | expectedName found => Text.ofString "Expected a block name, got " ++ found.description
  | unterminatedBody bracket =>
    Text.concat ["Unterminated configuration for block opened with ", bracket.openingText,
      ", missing ", bracket.closingText]
  | expectedKey found => Text.ofString "Expected a configuration key, got " ++ found.description
  | missingValue key => Text.concat ["Missing value for '", key, "' after ':'"]
  | tooLong length limit => lengthMessage "DSL source" length limit

/-- A fault and where it is. -/
structure SourceError where
  fault : Fault
  position : Option Position
  deriving DecidableEq, Repr

namespace SourceError

/-- A fault at a position. -/
def located (position : Position) (fault : Fault) : SourceError := ⟨fault, some position⟩

/-- The message behind its position, if it has one. -/
def text (error : SourceError) : Text :=
  match error.position with
  | none => error.fault.message
  | some position =>
    Text.concat [Number.decimal position.line, ":", Number.decimal position.column, ": ",
      error.fault.message]

end SourceError

end BlockPage.Layout
