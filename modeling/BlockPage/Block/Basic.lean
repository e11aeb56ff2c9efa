/-
**Blocks and the values of their configurations.**

A configuration holds truth values, integers, floating-point numbers and texts. Numbers and truth values
are equal by value across kinds, texts equal only texts. A placed block names its type, carries its own
configuration and may have a handle on the caller's side. Two layouts are the same page structure when
types and configurations agree in order; the handle and the order of keys do not count.

* `Scalar.equal`: equality by value, where a NaN equals nothing; `Scalar.maybeEqual`: the same of values that
  may be one object, as which a NaN equals itself.
* `Scalar.kindName`: what messages call a kind.
* `Config.equal`, `Block.sameStructure`, `sameLayout`: equality of structure by value; with the ending `By`,
  for any comparison of values.
-/

import BlockPage.Number.Binary64.Basic
import BlockPage.OrderedMap
import BlockPage.Text.Basic

namespace BlockPage

/-! ### Values -/

/-- A value that a configuration may hold. -/
inductive Scalar where
  | boolean (value : Bool)
  | integer (value : Int)
  | float (value : Binary64)
  | text (value : Text)
  deriving DecidableEq, Repr

namespace Scalar

instance : Inhabited Scalar := ⟨boolean true⟩

/-- The value as an integer, a truth value counting as one or zero. -/
def integer? : Scalar → Option Int
  | boolean value => some (if value then 1 else 0)
  | integer value => some value
  | _ => none

/-- Equality by value. -/
def equal (left right : Scalar) : Bool :=
  match left, right with
  | text first, text second => first == second
  | text _, _ => false
  | _, text _ => false
  | float first, float second => first.equal second
  | float number, other => (other.integer?.map number.equalInt).getD false
  | other, float number => (other.integer?.map number.equalInt).getD false
  | first, second => first.integer? == second.integer?

/-- The values can be found equal. Two values are only compared if they are not one and the same object, so
a NaN that two configurations have in common is equal to itself. -/
def maybeEqual (left right : Scalar) : Bool := left == right || left.equal right

/-- What messages call the kind of a value. -/
def kindName : Scalar → Text
  | boolean _ => "bool"
  | integer _ => "int"
  | float _ => "float"
  | text _ => "str"

/-- The value is neither zero, empty nor false. -/
def isTruthy : Scalar → Bool
  | boolean value => value
  | integer value => value != 0
  | float value => !value.isZero
  | text value => !value.isEmpty

end Scalar

/-! ### Blocks -/

/-- A configuration. -/
abbrev Config := OrderedMap Text Scalar

/-- The same keys, in any order, with values that are the same for some comparison. -/
def Config.equalBy (same : Scalar → Scalar → Bool) (left right : Config) : Bool :=
  left.size == right.size && left.entries.all fun entry =>
    match right.get? entry.1 with
    | some value => same value entry.2
    | none => false

/-- The same keys with equal values, in any order. -/
def Config.equal (left right : Config) : Bool := left.equalBy Scalar.equal right

/-- A placed block. -/
structure Block where
  typeId : Text
  config : Config := ∅
  instanceId : Option Text := none
  deriving DecidableEq

namespace Block

/-- The same type, and configurations with values that are the same for some comparison. -/
def sameStructureBy (same : Scalar → Scalar → Bool) (left right : Block) : Bool :=
  left.typeId == right.typeId && left.config.equalBy same right.config

/-- The same type and equal configurations. -/
def sameStructure (left right : Block) : Bool :=
  left.sameStructureBy Scalar.equal right

end Block

/-- The same structures in the same order, for some comparison of values. -/
def sameLayoutBy (same : Scalar → Scalar → Bool) (left right : List Block) : Bool :=
  left.length == right.length && (left.zip right).all fun pair => pair.1.sameStructureBy same pair.2

/-- The same structures in the same order. Layouts that have a NaN in common can be found equal without being
the same here; all that can be found equal are the same by `Scalar.maybeEqual`. -/
def sameLayout (left right : List Block) : Bool := sameLayoutBy Scalar.equal left right

end BlockPage
