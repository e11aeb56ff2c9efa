/-
**The grammar of the layout language.**

A source without lexical faults is a row of segments that cover it. Most segments are lexemes; blanks
and comments only separate them. A document is a row of declarations, in a leading `layout` wrapper or
without one. The grammar says which texts are segments, what lexemes mean and which blocks rows of them
declare; it scans and reads nothing.

* `StringBody`: what may stand between two quotes, and the text that it means.
* `Numeral.IsWritten`, `Numeral.Denotes`: how a number is written, and its value where it has one.
* `IsSegment`: a segment in front of what follows it; `Cut`: a whole source and its lexemes in order.
* `IsKey`, `IsValue`, `IsEntry`, `IsEntries`: the inside of a body.
* `IsDeclaration`, `IsDeclarations`: blocks; a body binds its entries from the left.
* `IsDocument`: a whole document. Its wrapper is recognised by its first two lexemes alone.
-/

import BlockPage.Layout.Lexer
import BlockPage.Layout.Reading
import BlockPage.Proofs.OrderedMap

namespace BlockPage.Layout

section Lexical

open CodePoint Number

/-- The text does not go on with a code point of the class. -/
def Stops (test : CodePoint → Bool) (following : Text) : Prop :=
  ∀ point ∈ following.head?, test point = false

/-! ### Strings -/

/-- The letters behind a backslash and the code points that they stand for there. -/
def escapes : List (CodePoint × CodePoint) :=
  [(backslash, backslash), (quotationMark, quotationMark), (apostrophe, apostrophe),
    (0x6E, newline), (0x72, carriageReturn), (0x74, tab), (zero, null)]

/-- What may stand between two quotes, with the text that it means. -/
inductive StringBody (quote : CodePoint) : Text → Text → Prop
  | nil : StringBody quote [] []
  | plain {point : CodePoint} {body decoded : Text} : point ≠ quote → point ≠ backslash →
      StringBody quote body decoded → StringBody quote (point :: body) (point :: decoded)
  | escape {letter point : CodePoint} {body decoded : Text} : (letter, point) ∈ escapes →
      StringBody quote body decoded →
      StringBody quote (backslash :: letter :: body) (point :: decoded)
  | unicode {first second third fourth : CodePoint} {body decoded : Text} :
      (∀ digit ∈ [first, second, third, fourth], isHexDigit digit = true) →
      StringBody quote body decoded →
      StringBody quote (backslash :: letterU :: first :: second :: third :: fourth :: body)
        (ofDigits 16 ([first, second, third, fourth].map hexValue) :: decoded)

/-! ### Numbers -/

/-- The letter of an exponent with its sign, if it has one. -/
def exponentMarks : List Text :=
  [[letterE], [letterE, plus], [letterE, hyphen], [0x45], [0x45, plus], [0x45, hyphen]]

namespace Numeral

/-- The parts of the number are what its grammar allows: perhaps a minus, digits, perhaps digits behind
a point, perhaps an exponent. -/
structure IsWritten (numeral : Numeral) : Prop where
  sign : numeral.sign = [] ∨ numeral.sign = [hyphen]
  nonempty : numeral.whole ≠ []
  whole : ∀ point ∈ numeral.whole, isDigit point = true
  fraction : ∀ point ∈ numeral.fraction, isDigit point = true
  exponent : (numeral.mark = [] ∧ numeral.exponent = []) ∨
    (numeral.mark ∈ exponentMarks ∧ numeral.exponent ≠ [] ∧
      ∀ point ∈ numeral.exponent, isDigit point = true)

/-- The power of ten that the exponent writes. -/
def power (numeral : Numeral) : Int :=
  if hyphen ∈ numeral.mark then -(ofDecimalText numeral.exponent : Int)
  else ofDecimalText numeral.exponent

/-- The value of the number: without fraction and exponent an integer of limited length, otherwise the
floating-point number nearest the decimal, which must be finite. -/
inductive Denotes (numeral : Numeral) : Lexeme → Prop
  | integer : numeral.fraction = [] → numeral.exponent = [] →
      numeral.whole.length ≤ Integer.digitLimit →
      Denotes numeral (.integer (if numeral.sign = [] then (ofDecimalText numeral.whole : Int)
        else -(ofDecimalText numeral.whole : Int)))
  | float {number : Binary64} : numeral.fraction ≠ [] ∨ numeral.exponent ≠ [] →
      number = Binary64.ofDecimal (numeral.sign ≠ []) (digitValues (numeral.whole ++ numeral.fraction))
        (numeral.power - numeral.fraction.length) →
      number.isFinite = true → Denotes numeral (.float number)

end Numeral

/-! ### Segments -/

/-- The lexemes of one code point. -/
def marks : List (CodePoint × Lexeme) :=
  [(colon, .colon), (comma, .comma), (openParenthesis, .opening .parenthesis),
    (closeParenthesis, .closing .parenthesis), (openBrace, .opening .brace),
    (closeBrace, .closing .brace)]

/-- The words that are truth values. -/
def keywords : List (Text × Bool) := [("true", true), ("false", false)]

/-- A word in front of what cannot continue it. -/
structure IsWord (name following : Text) : Prop where
  starts : ∃ first rest, name = first :: rest ∧ startsIdentifier first = true
  continues : ∀ point ∈ name, continuesIdentifier point = true
  stops : Stops continuesIdentifier following

/-- A segment in front of what follows it, with the lexeme that it is, if it is one. -/
inductive IsSegment : Text → Text → Option Lexeme → Prop
  | blank {point : CodePoint} {following : Text} : Text.isBlank point = true →
      IsSegment [point] following none
  | lineComment {content following : Text} : newline ∉ content → Stops (· ≠ newline) following →
      IsSegment (slash :: slash :: content) following none
  | blockComment {content following : Text} : ¬ [asterisk, slash] <:+: content →
      IsSegment (slash :: asterisk :: (content ++ [asterisk, slash])) following none
  | mark {point : CodePoint} {lexeme : Lexeme} {following : Text} : (point, lexeme) ∈ marks →
      IsSegment [point] following (some lexeme)
  | string {quote : CodePoint} {body decoded following : Text} :
      quote = quotationMark ∨ quote = apostrophe → StringBody quote body decoded →
      IsSegment (quote :: (body ++ [quote])) following (some (.string decoded))
  | keyword {name following : Text} {value : Bool} : IsWord name following →
      (name, value) ∈ keywords → IsSegment name following (some (.boolean value))
  | identifier {name following : Text} : IsWord name following → name ∉ keywords.map Prod.fst →
      IsSegment name following (some (.identifier name))
  | number {numeral : Numeral} {lexeme : Lexeme} {following : Text} : numeral.IsWritten →
      Stops spoilsNumber following → numeral.Denotes lexeme →
      IsSegment numeral.text following (some lexeme)

/-- A source cut into segments, with its lexemes in order. -/
inductive Cut : Text → List Lexeme → Prop
  | nil : Cut [] []
  | cons {written following : Text} {lexeme : Option Lexeme} {lexemes : List Lexeme} :
      IsSegment written following lexeme → Cut following lexemes →
      Cut (written ++ following) (lexeme.toList ++ lexemes)

end Lexical

/-! ### Entries -/

/-- The lexeme is a key. -/
inductive IsKey : Lexeme → Text → Prop
  | identifier (name : Text) : IsKey (.identifier name) name
  | string (value : Text) : IsKey (.string value) value

/-- The lexeme is a value. An identifier is its own text. -/
inductive IsValue : Lexeme → Scalar → Prop
  | string (value : Text) : IsValue (.string value) (.text value)
  | integer (value : Int) : IsValue (.integer value) (.integer value)
  | float (value : Binary64) : IsValue (.float value) (.float value)
  | boolean (value : Bool) : IsValue (.boolean value) (.boolean value)
  | identifier (name : Text) : IsValue (.identifier name) (.text name)

/-- An entry is a key with a value behind a colon, or a key alone, which is bound to true. -/
inductive IsEntry : List Lexeme → Text × Scalar → Prop
  | alone {lexeme : Lexeme} {key : Text} : IsKey lexeme key →
      IsEntry [lexeme] (key, .boolean true)
  | valued {first last : Lexeme} {key : Text} {value : Scalar} : IsKey first key →
      IsValue last value → IsEntry [first, .colon, last] (key, value)

/-- Perhaps a comma. -/
def OptionalComma (written : List Lexeme) : Prop := written = [] ∨ written = [.comma]

/-- One entry or more, perhaps with a comma behind each. -/
inductive IsEntries : List Lexeme → List (Text × Scalar) → Prop
  | last {written comma : List Lexeme} {entry : Text × Scalar} : IsEntry written entry →
      OptionalComma comma → IsEntries (written ++ comma) [entry]
  | more {written comma rest : List Lexeme} {entry : Text × Scalar}
      {entries : List (Text × Scalar)} : IsEntry written entry → OptionalComma comma →
      IsEntries rest entries → IsEntries (written ++ (comma ++ rest)) (entry :: entries)

/-! ### Declarations -/

/-- A declaration is a name, perhaps with a body in brackets of one kind. -/
inductive IsDeclaration : List Lexeme → Block → Prop
  | bare (name : Text) : IsDeclaration [.identifier name] { typeId := name }
  | empty (name : Text) (bracket : Bracket) :
      IsDeclaration [.identifier name, .opening bracket, .closing bracket] { typeId := name }
  | body (name : Text) (bracket : Bracket) {written : List Lexeme}
      {entries : List (Text × Scalar)} {config : Config} : IsEntries written entries →
      config.Binds entries →
      IsDeclaration (.identifier name :: .opening bracket :: (written ++ [.closing bracket]))
        { typeId := name, config := config }

/-- Declarations one after the other. -/
inductive IsDeclarations : List Lexeme → List Block → Prop
  | nil : IsDeclarations [] []
  | cons {written rest : List Lexeme} {block : Block} {blocks : List Block} :
      IsDeclaration written block → IsDeclarations rest blocks →
      IsDeclarations (written ++ rest) (block :: blocks)

/-! ### Documents -/

/-- The lexemes with which a wrapper starts. -/
def wrapperStart : List Lexeme := [.identifier "layout", .opening .brace]

/-- A document is a row of declarations: inside a wrapper with nothing behind it when it begins like
one, otherwise as they are. -/
inductive IsDocument : List Lexeme → List Block → Prop
  | wrapped {written : List Lexeme} {blocks : List Block} : IsDeclarations written blocks →
      IsDocument (wrapperStart ++ (written ++ [.closing .brace])) blocks
  | plain {written : List Lexeme} {blocks : List Block} : ¬ wrapperStart <+: written →
      IsDeclarations written blocks → IsDocument written blocks

end BlockPage.Layout
