/-
**Correctly rounded arithmetic.**

Each operation is its exact result rounded once; infinities and NaN follow the usual rules, and a zero
result has the sign that rounding to nearest gives it.

* `Binary64.add`, `Binary64.sub`, `Binary64.mul`, `Binary64.div`.
* `Binary64.toNearestInteger`: the nearest integer, a tie to the even one.
-/

import BlockPage.Number.Binary64.Basic

namespace BlockPage.Binary64

/-- The sign bit; a NaN has none. -/
def isNegative : Binary64 → Bool
  | nan => false
  | infinity negative => negative
  | finite negative _ => negative

/-- The number with the other sign. -/
def neg : Binary64 → Binary64
  | nan => nan
  | infinity negative => infinity !negative
  | finite negative place => finite (!negative) place

/-- The sum. -/
def add (left right : Binary64) : Binary64 :=
  match left, right with
  | nan, _ => nan
  | _, nan => nan
  | infinity first, infinity second => if first = second then infinity first else nan
  | infinity first, finite .. => infinity first
  | finite .., infinity second => infinity second
  | finite first place, finite second place' =>
    let value (negative : Bool) (place : Nat) : Int :=
      if negative then -(magnitude place : Int) else magnitude place
    ofUnits (first && second) (value first place + value second place') 1

/-- The difference. -/
def sub (left right : Binary64) : Binary64 := add left (neg right)

/-- The product. -/
def mul (left right : Binary64) : Binary64 :=
  let negative := left.isNegative != right.isNegative
  match left, right with
  | nan, _ => nan
  | _, nan => nan
  | infinity _, other => if other.isZero then nan else infinity negative
  | other, infinity _ => if other.isZero then nan else infinity negative
  | finite _ place, finite _ place' =>
    ofRatio negative (magnitude place * magnitude place') (unitsInOne * unitsInOne)

/-- The quotient. -/
def div (left right : Binary64) : Binary64 :=
  let negative := left.isNegative != right.isNegative
  match left, right with
  | nan, _ => nan
  | _, nan => nan
  | infinity _, infinity _ => nan
  | infinity _, finite .. => infinity negative
  | finite .., infinity _ => zero negative
  | finite _ place, finite _ place' =>
    if place'.val = 0 then (if place.val = 0 then nan else infinity negative)
    else ofRatio negative (magnitude place) (magnitude place')

/-- The nearest integer of a finite number, a tie to the even one. -/
def toNearestInteger : Binary64 → Option Int
  | finite negative place =>
    let rounded := roundQuotient (magnitude place) unitsInOne
    some (if negative then -(rounded : Int) else rounded)
  | _ => none

end BlockPage.Binary64
