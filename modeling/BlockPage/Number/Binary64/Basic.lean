/-
**Binary floating point with 53 bits.**

A finite number is its sign and its place in the ascending sequence of the magnitudes, which is also
its bit pattern without the sign. Everything is computed in exact integers: the magnitude at place `p`
is `significand p * 2 ^ scale p` units of `2 ^ -1074`, which is the smallest magnitude above zero.

* `Binary64.ofRatio`: a ratio rounded to the nearest number, a tie to the even significand.
* `Binary64.units?`: the exact value of a finite number, in units of `2 ^ -1074`.
* `Binary64.equal`, `Binary64.equalInt`: equality by value, also with an integer; `Binary64.isBelow`: the
  order, against an integer.
-/

namespace BlockPage

/-- A floating-point number. -/
inductive Binary64 where
  | nan
  | infinity (negative : Bool)
  | finite (negative : Bool) (place : Fin 0x7FF0000000000000)
  deriving DecidableEq, Repr

namespace Binary64

/-- The zero of a sign. -/
def zero (negative : Bool) : Binary64 := finite negative ⟨0, by decide⟩

instance : Inhabited Binary64 := ⟨zero false⟩

/-- How many magnitudes share a binary exponent. -/
def binade : Nat := Nat.pow 2 52

/-- How many units the number one is. -/
def unitsInOne : Nat := Nat.pow 2 1074

/-- The significand of the magnitude at a place. -/
def significand (place : Nat) : Nat :=
  if place < binade then place else binade + place % binade

/-- The binary exponent of the magnitude at a place, over that of the smallest one. -/
def scale (place : Nat) : Nat := place / binade - 1

/-- The magnitude at a place in units of `2 ^ -1074`. -/
def magnitude (place : Nat) : Nat := significand place * Nat.pow 2 (scale place)

/-- The signed value of a finite number in units of `2 ^ -1074`. -/
def units? : Binary64 → Option Int
  | finite negative place => some (if negative then -(magnitude place : Int) else magnitude place)
  | _ => none

/-- The number is neither infinite nor a NaN. -/
def isFinite : Binary64 → Bool
  | finite .. => true
  | _ => false

/-! ### Rounding -/

/-- A quotient rounded to the nearest integer, a tie to the even one. -/
def roundQuotient (numerator denominator : Nat) : Nat :=
  let quotient := numerator / denominator
  let rest := numerator % denominator
  if 2 * rest < denominator then quotient
  else if denominator < 2 * rest then quotient + 1
  else quotient + quotient % 2

/-- The place of the magnitude nearest a ratio, were there no largest one. -/
def placeOfRatio (numerator denominator : Nat) : Nat :=
  let scaled := numerator * unitsInOne
  let exponent := Nat.log2 (scaled / denominator) - 52
  exponent * binade + roundQuotient scaled (denominator * Nat.pow 2 exponent)

/-- The number at a place, which is infinite beyond the largest finite one. -/
def ofPlace (negative : Bool) (place : Nat) : Binary64 :=
  if small : place < 0x7FF0000000000000 then finite negative ⟨place, small⟩ else infinity negative

/-- The number nearest a ratio. -/
def ofRatio (negative : Bool) (numerator denominator : Nat) : Binary64 :=
  ofPlace negative (placeOfRatio numerator denominator)

/-- The number nearest an integer. -/
def ofInt (value : Int) : Binary64 := ofRatio (value < 0) value.natAbs 1

/-- The number nearest a signed count of units of `2 ^ -1074`, over a denominator. The sign of zero is
the given one. -/
def ofUnits (negativeZero : Bool) (units : Int) (denominator : Nat) : Binary64 :=
  ofRatio (if units = 0 then negativeZero else units < 0) units.natAbs (unitsInOne * denominator)

/-! ### Equality by value -/

/-- Equal values: no NaN equals anything, and the zeros are equal. -/
def equal (left right : Binary64) : Bool :=
  match left, right with
  | infinity first, infinity second => first == second
  | finite .., finite .. => left.units? == right.units?
  | _, _ => false

/-- The number has the value of an integer. -/
def equalInt (number : Binary64) (value : Int) : Bool := number.units? == some (value * unitsInOne)

/-- The number is below an integer; a NaN is not. -/
def isBelow (number : Binary64) (value : Int) : Bool :=
  match number with
  | nan => false
  | infinity negative => negative
  | other => other.units?.any (· < value * unitsInOne)

/-- The number is a zero of either sign. -/
def isZero (number : Binary64) : Bool := number.equalInt 0

/-- The integer that the number equals. -/
def integer? (number : Binary64) : Option Int :=
  number.units?.bind fun units =>
    if units % unitsInOne = 0 then some (units / unitsInOne) else none

end Binary64

end BlockPage
