/-
**Integers and their texts.**

* `decimal`: a natural number in decimal digits; `ofDigits`: the number that digits stand for;
  `ofDigits_decimal`: reading a number's digits gives the number.
* `Integer.text?`: an integer as text, for integers of at most 4300 digits; the converse reading of
  a decimal literal has the same limit.
* `Integer.isWord`: whether an integer is one of 64 bits.
* `Integer.ofHexadecimal?`: the reading of a hexadecimal numeral.
-/

import BlockPage.Text.Basic
import BlockPage.Text.Classes
import BlockPage.Text.Parts

namespace BlockPage.Number

/-- A natural number in decimal digits. -/
def decimal (n : Nat) : Text := (Nat.toDigits 10 n).map Char.toNat

/-- The number that a sequence of digits stands for, the most significant one first. -/
def ofDigits (base : Nat) (digits : List Nat) : Nat :=
  digits.foldl (fun value digit => base * value + digit) 0

/-- The values of decimal digits. -/
def digitValues (text : Text) : List Nat := text.map (· - CodePoint.zero)

/-- The number that decimal digits stand for. -/
def ofDecimalText (text : Text) : Nat := ofDigits 10 (digitValues text)

theorem ofDigits_decimal (n : Nat) : ofDecimalText (decimal n) = n := by
  have read := Nat.ofDigitChars_toDigits (b := 10) (n := n) (by omega) (by omega)
  simpa [ofDecimalText, digitValues, decimal, ofDigits, List.foldl_map, Nat.ofDigitChars] using read

namespace Integer

/-- The most digits that an integer may have when it is written or read in decimal. -/
def digitLimit : Nat := 4300

/-- What is said of an integer with more digits. -/
def limitMessage : Text :=
  "Exceeds the limit (4300 digits) for integer string conversion; use sys.set_int_max_str_digits() to increase the limit"

/-- The integer has more digits than can be written. -/
def exceedsLimit (value : Int) : Bool := Nat.pow 10 digitLimit ≤ value.natAbs

/-- The integer is one of 64 bits. -/
def isWord (value : Int) : Bool := -9223372036854775808 ≤ value && value < 9223372036854775808

/-- The integer in decimal, of any length. -/
def text (value : Int) : Text :=
  if value < 0 then CodePoint.hyphen :: decimal value.natAbs else decimal value.natAbs

/-- The integer in decimal, unless it is too long. -/
def text? (value : Int) : Option Text :=
  if exceedsLimit value then none else some (text value)

/-! ### Hexadecimal numerals -/

/-- A numeral with blanks as spaces and the digits of all scripts as those of ASCII. -/
def normalizePoint (point : CodePoint) : CodePoint :=
  if point < 0x7F then point
  else if Text.isBlank point then CodePoint.space
  else match Text.digitValue? point with
    | some value => CodePoint.zero + value
    | none => 0x3F

/-- A space of ASCII. -/
def isAsciiSpace (point : CodePoint) : Bool := (0x09 ≤ point && point ≤ 0x0D) || point == 0x20

/-- The text without spaces of ASCII at its ends. -/
def stripSpaces (text : Text) : Text :=
  ((text.dropWhile isAsciiSpace).reverse.dropWhile isAsciiSpace).reverse

/-- The digits of a numeral in which single underscores may stand between digits. `between` says that
the last code point was a digit. -/
def groupedDigits? (isDigit : CodePoint → Bool) : Bool → Text → Option Text
  | between, [] => if between then some [] else none
  | between, first :: rest =>
    if isDigit first then (groupedDigits? isDigit true rest).map (first :: ·)
    else if first == CodePoint.underscore && between then groupedDigits? isDigit false rest
    else none

/-- The numeral without a leading mark of its base and the underscore after it. -/
def dropBaseMark : Text → Text
  | 0x30 :: mark :: 0x5F :: rest =>
    if mark == 0x78 || mark == 0x58 then rest else 0x30 :: mark :: 0x5F :: rest
  | 0x30 :: mark :: rest => if mark == 0x78 || mark == 0x58 then rest else 0x30 :: mark :: rest
  | text => text

/-- The value of a hexadecimal numeral: blanks around it, a sign and a base mark are allowed. -/
def ofHexadecimal? (text : Text) : Option Int :=
  let numeral := stripSpaces (text.map normalizePoint)
  let (negative, unsigned) := match numeral with
    | CodePoint.hyphen :: rest => (true, rest)
    | CodePoint.plus :: rest => (false, rest)
    | _ => (false, numeral)
  (groupedDigits? CodePoint.isHexDigit false (dropBaseMark unsigned)).map fun digits =>
    let value := ofDigits 16 (digits.map CodePoint.hexValue)
    if negative then -(value : Int) else value

end Integer

end BlockPage.Number
