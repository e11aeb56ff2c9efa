/-
**Floating-point numbers in decimal.**

Reading rounds the decimal to the nearest number. Writing takes the fewest significant digits that read
back: on the grid of each length the two neighbours of the number are tried, of two that read back the
nearer one is taken, and of two equally near ones the even one.

* `Binary64.ofDecimal`: digits and a power of ten, as a number.
* `Binary64.shortest`: the coefficient and the power of ten of the shortest decimal.
* `Binary64.text`: the written number; positional for decimal exponents from -4 to 15, with at least
  one digit on each side of the point.
-/

import BlockPage.Number.Binary64.Basic
import BlockPage.Number.Integer

namespace BlockPage.Binary64

open Number

/-! ### Reading -/

/-- The number nearest `0.d₁d₂… * 10 ^ point` for the digits `d₁d₂…`, of which the first is not zero.
Far outside the range the answer is known without the power. -/
def ofSignificant (negative : Bool) (digits : List Nat) (point : Int) : Binary64 :=
  if digits.isEmpty then zero negative
  else if point > 310 then infinity negative
  else if point < -325 then zero negative
  else
    let exponent := point - digits.length
    if 0 ≤ exponent then ofRatio negative (ofDigits 10 digits * Nat.pow 10 exponent.toNat) 1
    else ofRatio negative (ofDigits 10 digits) (Nat.pow 10 (-exponent).toNat)

/-- The number nearest the integer with the given digits, times a power of ten. -/
def ofDecimal (negative : Bool) (digits : List Nat) (exponent : Int) : Binary64 :=
  let significant := digits.dropWhile (· == 0)
  ofSignificant negative significant (significant.length + exponent)

/-! ### Writing -/

/-- A coefficient and a power of ten. -/
structure Decimal where
  coefficient : Nat
  exponent : Int
  deriving DecidableEq, Repr

/-- The place nearest a decimal, read as its digits are read. -/
def Decimal.number (value : Decimal) : Binary64 :=
  ofDecimal false (digitValues (decimal value.coefficient)) value.exponent

/-- The least power of ten above the magnitude at a place. -/
def decimalPoint (place : Nat) : Int :=
  (decimal (magnitude place * Nat.pow 10 400 / unitsInOne)).length - (400 : Int)

/-- The magnitude at a place over a power of ten, as a ratio. -/
def overPower (place : Nat) (exponent : Int) : Nat × Nat :=
  if 0 ≤ exponent then (magnitude place, unitsInOne * Nat.pow 10 exponent.toNat)
  else (magnitude place * Nat.pow 10 (-exponent).toNat, unitsInOne)

/-- The decimal with the given number of digits that is nearest among those that read back. -/
def nearestDecimal? (place : Fin 0x7FF0000000000000) (point : Int) (digits : Nat) : Option Decimal :=
  let exponent := point - digits
  let (numerator, denominator) := overPower place exponent
  let lower : Decimal := ⟨numerator / denominator, exponent⟩
  let upper : Decimal := ⟨numerator / denominator + 1, exponent⟩
  let rest := numerator % denominator
  let upperFirst := denominator < 2 * rest
    || (denominator == 2 * rest && lower.coefficient % 2 == 1)
  let candidates := if upperFirst then [upper, lower] else [lower, upper]
  candidates.find? fun candidate => candidate.number == finite false place

/-- The exact decimal of the magnitude at a place. -/
def exactDecimal (place : Nat) : Decimal := ⟨magnitude place * Nat.pow 5 1074, -1074⟩

/-- The shortest decimal that reads back. Seventeen digits are always enough. -/
def shortest (place : Fin 0x7FF0000000000000) : Decimal :=
  let point := decimalPoint place
  ((List.range 17).findSome? fun digits => nearestDecimal? place point (digits + 1)).getD
    (exactDecimal place)

/-- The digits of a number, laid out around the point or before a power of ten. `point` digits come
before the point. -/
def layOut (digits : Text) (point : Int) : Text :=
  if -4 < point ∧ point ≤ 16 then
    if point ≤ 0 then
      Text.ofString "0." ++ List.replicate (-point).toNat CodePoint.zero ++ digits
    else if digits.length ≤ point then
      digits ++ List.replicate (point.toNat - digits.length) CodePoint.zero ++ Text.ofString ".0"
    else
      digits.take point.toNat ++ CodePoint.fullStop :: digits.drop point.toNat
  else
    let power := point - 1
    let fraction := digits.drop 1
    let shown := decimal power.natAbs
    digits.take 1 ++ (if fraction.isEmpty then [] else CodePoint.fullStop :: fraction)
      ++ CodePoint.letterE :: (if power < 0 then CodePoint.hyphen else CodePoint.plus)
      :: List.replicate (2 - shown.length) CodePoint.zero ++ shown

/-- The magnitude at a place in decimal. -/
def magnitudeText (place : Fin 0x7FF0000000000000) : Text :=
  if place.val = 0 then "0.0"
  else
    let value := shortest place
    let digits := decimal value.coefficient
    let significant := (digits.reverse.dropWhile (· == CodePoint.zero)).reverse
    layOut significant (digits.length + value.exponent)

/-- The number in decimal. -/
def text : Binary64 → Text
  | nan => "nan"
  | infinity negative => if negative then "-inf" else "inf"
  | finite negative place =>
    if negative then CodePoint.hyphen :: magnitudeText place else magnitudeText place

end BlockPage.Binary64
