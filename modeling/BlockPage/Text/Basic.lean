/-
**Text as a sequence of code points.**

Every text of the library is a list of code points, lone surrogates included, so lengths, columns and
"the first character" all count the same thing. `Char` has no surrogates, hence the separate type.

* `Text.ofString`: string literals become text (a coercion, so templates are written as literals);
  `Text.ofString_ofList` evaluates a literal without walking its encoding.
* `Text.atMost`: the order of texts.
* `Text.concat`, `Text.join`: juxtaposition, plain and with a separator.
* the code points that the layout language and the quoting rules mention, by name.
-/

namespace BlockPage

/-- A Unicode code point, surrogates included. -/
abbrev CodePoint := Nat

/-- A sequence of code points. -/
abbrev Text := List CodePoint

namespace Text

/-- The code points of a string. -/
def ofString (s : String) : Text := s.toList.map Char.toNat

instance : Coe String Text := ⟨ofString⟩

theorem ofString_ofList (characters : List Char) :
    ofString (String.ofList characters) = characters.map Char.toNat := by
  simp [ofString]

/-- The texts one after the other. -/
def concat (parts : List Text) : Text := parts.flatten

/-- The texts one after the other, with the separator between neighbours. -/
def join (separator : Text) (parts : List Text) : Text := separator.intercalate parts

/-- The string of a text without surrogates; a surrogate becomes the null character. -/
def toString (text : Text) : String := String.ofList (text.map Char.ofNat)

/-- A surrogate code point, which no string can hold. -/
def isSurrogate (point : CodePoint) : Bool := 0xD800 ≤ point && point ≤ 0xDFFF

/-- The first text is the second one or comes before it, code point by code point. -/
def atMost : Text → Text → Bool
  | [], _ => true
  | _ :: _, [] => false
  | first :: rest, second :: others => first < second || (first == second && atMost rest others)

end Text

/-! ### Code points by name -/

namespace CodePoint

@[match_pattern] abbrev null : CodePoint := 0x00
@[match_pattern] abbrev tab : CodePoint := 0x09
@[match_pattern] abbrev newline : CodePoint := 0x0A
@[match_pattern] abbrev carriageReturn : CodePoint := 0x0D
@[match_pattern] abbrev space : CodePoint := 0x20
@[match_pattern] abbrev quotationMark : CodePoint := 0x22
@[match_pattern] abbrev numberSign : CodePoint := 0x23
@[match_pattern] abbrev ampersand : CodePoint := 0x26
@[match_pattern] abbrev apostrophe : CodePoint := 0x27
@[match_pattern] abbrev openParenthesis : CodePoint := 0x28
@[match_pattern] abbrev closeParenthesis : CodePoint := 0x29
@[match_pattern] abbrev asterisk : CodePoint := 0x2A
@[match_pattern] abbrev plus : CodePoint := 0x2B
@[match_pattern] abbrev comma : CodePoint := 0x2C
@[match_pattern] abbrev hyphen : CodePoint := 0x2D
@[match_pattern] abbrev fullStop : CodePoint := 0x2E
@[match_pattern] abbrev slash : CodePoint := 0x2F
@[match_pattern] abbrev zero : CodePoint := 0x30
@[match_pattern] abbrev colon : CodePoint := 0x3A
@[match_pattern] abbrev semicolon : CodePoint := 0x3B
@[match_pattern] abbrev lessThan : CodePoint := 0x3C
@[match_pattern] abbrev greaterThan : CodePoint := 0x3E
@[match_pattern] abbrev backslash : CodePoint := 0x5C
@[match_pattern] abbrev underscore : CodePoint := 0x5F
@[match_pattern] abbrev letterE : CodePoint := 0x65
@[match_pattern] abbrev letterU : CodePoint := 0x75
@[match_pattern] abbrev openBrace : CodePoint := 0x7B
@[match_pattern] abbrev verticalBar : CodePoint := 0x7C
@[match_pattern] abbrev closeBrace : CodePoint := 0x7D
@[match_pattern] abbrev delete : CodePoint := 0x7F

/-- A decimal digit of ASCII. -/
def isDigit (point : CodePoint) : Bool := 0x30 ≤ point && point ≤ 0x39

/-- A letter of ASCII. -/
def isLetter (point : CodePoint) : Bool :=
  (0x61 ≤ point && point ≤ 0x7A) || (0x41 ≤ point && point ≤ 0x5A)

/-- A hexadecimal digit of ASCII, in either case. -/
def isHexDigit (point : CodePoint) : Bool :=
  isDigit point || (0x61 ≤ point && point ≤ 0x66) || (0x41 ≤ point && point ≤ 0x46)

/-- The value of a hexadecimal digit. -/
def hexValue (point : CodePoint) : Nat :=
  if point ≤ 0x39 then point - 0x30 else if point ≤ 0x46 then point - 0x37 else point - 0x57

/-- The small form of a letter of ASCII, and every other code point itself. -/
def toLower (point : CodePoint) : CodePoint :=
  if 0x41 ≤ point && point ≤ 0x5A then point + 0x20 else point

/-- The capital form of a letter of ASCII, and every other code point itself. -/
def toUpper (point : CodePoint) : CodePoint :=
  if 0x61 ≤ point && point ≤ 0x7A then point - 0x20 else point

end CodePoint

end BlockPage
