/-
**Positions, identifiers and lexemes.**

Lines and columns count from one. A newline ends its line; every other code point takes one column. A
lexeme is a category of the layout language together with its decoded value; a token is a lexeme at a
position. The end of the source is no token: a scan carries its position instead.

* `Position.after`: the position behind a code point; `Position.past`: behind a text; `Position.past_append`:
  positions compose.
* `startsIdentifier`, `continuesIdentifier`: the code points of an identifier; `keyword?`: the two words that
  are truth values; `isIdentifier`: any other identifier.
* `Bracket`: the two kinds of bodies, with their closing lexemes.
* `Lexeme.description`: how messages show a lexeme.
* `Lexeme.key?`, `Lexeme.value?`: what a lexeme is as a configuration key or value.
-/

import BlockPage.Block.Basic
import BlockPage.Number.Binary64.Decimal
import BlockPage.Text.Basic
import BlockPage.Text.Quoted

namespace BlockPage.Layout

open CodePoint

/-! ### Positions -/

/-- A line and a column. -/
structure Position where
  line : Nat
  column : Nat
  deriving DecidableEq, Repr

namespace Position

/-- The first line and column. -/
def start : Position := ⟨1, 1⟩

/-- The position behind a code point. -/
def after (position : Position) (point : CodePoint) : Position :=
  if point = CodePoint.newline then ⟨position.line + 1, 1⟩
  else ⟨position.line, position.column + 1⟩

/-- The position behind a text. -/
def past (position : Position) (text : Text) : Position := text.foldl after position

theorem past_nil (position : Position) : position.past [] = position := rfl

theorem past_cons (position : Position) (first : CodePoint) (rest : Text) :
    position.past (first :: rest) = (position.after first).past rest := rfl

theorem past_append (position : Position) (left right : Text) :
    position.past (left ++ right) = (position.past left).past right :=
  List.foldl_append

end Position

/-! ### Identifiers -/

/-- A code point that an identifier may start with. -/
def startsIdentifier (point : CodePoint) : Bool := point == underscore || isLetter point

/-- A code point that may stand inside an identifier. -/
def continuesIdentifier (point : CodePoint) : Bool :=
  startsIdentifier point || point == hyphen || isDigit point

/-- The truth value that a word stands for. -/
def keyword? (word : Text) : Option Bool :=
  if word = Text.ofString "true" then some true
  else if word = Text.ofString "false" then some false
  else none

/-- The text reads as one identifier that is no keyword. -/
def isIdentifier : Text → Bool
  | [] => false
  | first :: rest =>
    startsIdentifier first && rest.all continuesIdentifier && (keyword? (first :: rest)).isNone

/-! ### Lexemes -/

/-- The kind of brackets around a body. -/
inductive Bracket where
  | parenthesis
  | brace
  deriving DecidableEq, Repr

/-- A lexeme with its decoded value. -/
inductive Lexeme where
  | identifier (name : Text)
  | string (value : Text)
  | integer (value : Int)
  | float (value : Binary64)
  | boolean (value : Bool)
  | colon
  | comma
  | opening (bracket : Bracket)
  | closing (bracket : Bracket)
  deriving DecidableEq, Repr

/-- A lexeme at the position of its first code point. -/
structure Token where
  lexeme : Lexeme
  position : Position
  deriving DecidableEq, Repr

/-- The opening bracket as messages show it. -/
def Bracket.openingText : Bracket → Text
  | parenthesis => "'('"
  | brace => "'\x7b'"

/-- The closing bracket as messages show it. -/
def Bracket.closingText : Bracket → Text
  | parenthesis => "')'"
  | brace => "'\x7d'"

namespace Lexeme

/-- The lexeme as messages show it. -/
def description : Lexeme → Text
  | identifier name => Text.ofString "identifier " ++ Text.quoted name
  | string value => Text.ofString "string " ++ Text.quoted value
  | integer value => Text.ofString "number " ++ Number.Integer.text value
  | float value => Text.ofString "number " ++ value.text
  | boolean value => if value then "boolean True" else "boolean False"
  | colon => "':'"
  | comma => "','"
  | opening bracket => bracket.openingText
  | closing bracket => bracket.closingText

/-- The configuration key that the lexeme is. -/
def key? : Lexeme → Option Text
  | identifier name => some name
  | string value => some value
  | _ => none

/-- The configuration value that the lexeme is; an identifier stands for its own text. -/
def value? : Lexeme → Option Scalar
  | identifier name => some (.text name)
  | string value => some (.text value)
  | integer value => some (.integer value)
  | float value => some (.float value)
  | boolean value => some (.boolean value)
  | _ => none

end Lexeme

end BlockPage.Layout
