/-
**What equality of structure says.**

Values of a configuration are equal across kinds, as numbers are. Configurations are equal if they have
equal values under the same keys; so the order of keys does not count, but neither does the kind of a number.

* `Scalar.SameForm`, `Scalar.eq_of_equal`: equal values of one kind, and of one sign, are the same value.
* `Scalar.isTruthy_of_equal`: equal values are on together.
* `Scalar.eq_of_maybeEqual`, `Scalar.isTruthy_of_maybeEqual`: the same of values that may be one object.
* `Config.SameAt`, `Config.sameAt_of_equalBy`: what equal configurations have under a key.
* `sameLayoutBy_iff`: layouts pair by pair; `sameLayoutBy_maybeEqual`, `sameLayoutBy_maybeEqual_self`: the
  layouts that can be found equal are those of equal values, and each layout and itself.
-/

import BlockPage.Block.Basic
import BlockPage.Number.Binary64.Arithmetic
import BlockPage.Proofs.Number.Rounding
import BlockPage.Proofs.OrderedMap
import Mathlib.Data.List.Forall2

namespace BlockPage

/-! ### Numbers -/

namespace Binary64

/-- No two places have the same magnitude. -/
theorem magnitude_inj {place place' : Nat} (same : magnitude place = magnitude place') : place = place' := by
  rw [← placeOfRatio_magnitude place, same, placeOfRatio_magnitude]

/-- Equal numbers of one sign are the same number. -/
theorem eq_of_equal {left right : Binary64} (same : left.equal right = true)
    (sign : left.isNegative = right.isNegative) : left = right := by
  cases left with
  | nan => cases same
  | infinity negative =>
    cases right with
    | nan => cases same
    | infinity negative' => rw [eq_of_beq same]
    | finite negative' place' => cases same
  | finite negative place =>
    cases right with
    | nan => cases same
    | infinity negative' => cases same
    | finite negative' place' =>
      obtain rfl : negative = negative' := sign
      have units := Option.some.inj (eq_of_beq same)
      have magnitudes : magnitude place = magnitude place' := by
        cases negative with
        | false => exact Int.ofNat_inj.mp units
        | true => exact Int.ofNat_inj.mp (Int.neg_inj.mp units)
      rw [Fin.ext (magnitude_inj magnitudes)]

/-- Equal numbers are zero together. -/
theorem isZero_of_equal {left right : Binary64} (same : left.equal right = true) :
    left.isZero = right.isZero := by
  unfold isZero equalInt
  cases left with
  | nan => cases same
  | infinity negative =>
    cases right with
    | nan => cases same
    | infinity negative' => rfl
    | finite negative' place' => cases same
  | finite negative place =>
    cases right with
    | nan => cases same
    | infinity negative' => cases same
    | finite negative' place' => rw [eq_of_beq same]

/-- A number that has the value of an integer is zero with it. -/
theorem isZero_of_equalInt {number : Binary64} {value : Int} (same : number.equalInt value = true) :
    number.isZero = (value == 0) := by
  rw [isZero, equalInt, eq_of_beq same, Bool.eq_iff_iff, beq_iff_eq, beq_iff_eq, Option.some.injEq,
    Int.zero_mul, Int.mul_eq_zero]
  have positive := unitsInOne_pos
  omega

end Binary64

/-! ### Values -/

namespace Scalar

variable {left right : Scalar}

/-- Two values are written alike where they are equal: they are of one kind, and of one sign if they are
floating-point numbers. -/
def SameForm : Scalar → Scalar → Prop
  | boolean _, boolean _ => True
  | integer _, integer _ => True
  | float left, float right => left.isNegative = right.isNegative
  | text _, text _ => True
  | _, _ => False

instance : DecidableRel SameForm := fun left right => by
  unfold SameForm
  split <;> infer_instance

/-- Equal values of one form are the same value. -/
theorem eq_of_equal (same : right.equal left = true) (form : left.SameForm right) : left = right := by
  cases left with
  | boolean first =>
    cases right with
    | boolean second => cases first <;> cases second <;> first | rfl | cases same
    | _ => cases form
  | integer first =>
    cases right with
    | integer second => exact congrArg integer (Option.some.inj (eq_of_beq same)).symm
    | _ => cases form
  | float first =>
    cases right with
    | float second => exact congrArg float (Binary64.eq_of_equal same form.symm).symm
    | _ => cases form
  | text first =>
    cases right with
    | text second => exact congrArg text (eq_of_beq same).symm
    | _ => cases form

/-- A number is on unless it is zero. -/
theorem isTruthy_of_integer? {value : Scalar} {number : Int} (whole : value.integer? = some number) :
    value.isTruthy = (number != 0) := by
  cases value with
  | boolean truth =>
    cases whole
    cases truth <;> rfl
  | integer other =>
    cases whole
    rfl
  | float _ => cases whole
  | text _ => cases whole

/-- A number is on as the integer is whose value it has. -/
theorem isTruthy_of_equalInt {number : Binary64} (other : Scalar)
    (same : (other.integer?.map number.equalInt).getD false = true) :
    (float number).isTruthy = other.isTruthy := by
  cases whole : other.integer? with
  | none =>
    rw [whole] at same
    cases same
  | some value =>
    rw [whole] at same
    rw [isTruthy_of_integer? whole, isTruthy, Binary64.isZero_of_equalInt same]
    rfl

/-- Equal values are on together. -/
theorem isTruthy_of_equal (same : right.equal left = true) : left.isTruthy = right.isTruthy := by
  have whole : ∀ {value other : Scalar} {number : Int}, value.integer? = some number →
      value.integer? = other.integer? → value.isTruthy = other.isTruthy := by
    intro value other number known equal
    rw [isTruthy_of_integer? known, isTruthy_of_integer? (equal ▸ known)]
  cases right with
  | boolean second =>
    cases left with
    | boolean first => exact (whole rfl (eq_of_beq same)).symm
    | integer first => exact (whole rfl (eq_of_beq same)).symm
    | float first => exact isTruthy_of_equalInt _ same
    | text first => cases same
  | integer second =>
    cases left with
    | boolean first => exact (whole rfl (eq_of_beq same)).symm
    | integer first => exact (whole rfl (eq_of_beq same)).symm
    | float first => exact isTruthy_of_equalInt _ same
    | text first => cases same
  | float second =>
    cases left with
    | boolean first => exact (isTruthy_of_equalInt (.boolean first) same).symm
    | integer first => exact (isTruthy_of_equalInt (.integer first) same).symm
    | float first => exact congrArg not (Binary64.isZero_of_equal same).symm
    | text first => cases same
  | text second =>
    cases left with
    | text first => rw [eq_of_beq same]
    | _ => cases same

end Scalar

/-! ### Values that may be one object -/

namespace Scalar

variable {left right : Scalar}

/-- Values that are equal can be found equal. -/
theorem maybeEqual_of_equal (same : left.equal right = true) : left.maybeEqual right = true := by
  rw [maybeEqual, same, Bool.or_true]

/-- A value can be found equal to itself, even a NaN. -/
theorem maybeEqual_self (value : Scalar) : value.maybeEqual value = true := by
  rw [maybeEqual, beq_self_eq_true, Bool.true_or]

/-- Values of one form that can be found equal are the same value. -/
theorem eq_of_maybeEqual (same : right.maybeEqual left = true) (form : left.SameForm right) :
    left = right := by
  rcases Bool.or_eq_true_iff.mp same with shared | equal
  · exact (eq_of_beq shared).symm
  · exact eq_of_equal equal form

/-- Values that can be found equal are on together. -/
theorem isTruthy_of_maybeEqual (same : right.maybeEqual left = true) :
    left.isTruthy = right.isTruthy := by
  rcases Bool.or_eq_true_iff.mp same with shared | equal
  · rw [eq_of_beq shared]
  · exact isTruthy_of_equal equal

end Scalar

/-! ### Configurations and layouts -/

section Comparisons

variable {compare : Scalar → Scalar → Bool}

/-- Two configurations have values under a key that are the same for some comparison, or none. -/
def Config.SameAt (compare : Scalar → Scalar → Bool) (left right : Config) (key : Text) : Prop :=
  (left.get? key = none ∧ right.get? key = none) ∨
    ∃ value other, left.get? key = some value ∧ right.get? key = some other ∧ compare other value = true

/-- Configurations that are the same for some comparison are so under every key. -/
theorem Config.sameAt_of_equalBy {left right : Config} (same : left.equalBy compare right = true)
    (key : Text) : Config.SameAt compare left right key := by
  rw [Config.equalBy, Bool.and_eq_true, List.all_eq_true] at same
  obtain ⟨size, each⟩ := same
  have found : ∀ entry ∈ left.entries, ∃ other, right.get? entry.1 = some other ∧
      compare other entry.2 = true := by
    intro entry inside
    have here := each entry inside
    split at here
    · next other value => exact ⟨other, value, here⟩
    · cases here
  have inside : ∀ key ∈ left.keys, key ∈ right.keys := by
    intro key listed
    obtain ⟨entry, bound, rfl⟩ := List.mem_map.mp listed
    obtain ⟨other, value, _⟩ := found entry bound
    by_contra absent
    rw [OrderedMap.get?_eq_none_iff.mpr absent] at value
    cases value
  by_cases listed : key ∈ left.keys
  · obtain ⟨entry, bound, rfl⟩ := List.mem_map.mp listed
    obtain ⟨other, value, same⟩ := found entry bound
    exact .inr ⟨entry.2, other, OrderedMap.get?_of_mem bound, value, same⟩
  · have absent : key ∉ right.keys := fun present =>
      listed (OrderedMap.mem_keys_of_forall_mem (eq_of_beq size) inside present)
    exact .inl ⟨OrderedMap.get?_eq_none_iff.mpr listed, OrderedMap.get?_eq_none_iff.mpr absent⟩

/-- A configuration is the same as itself if each of its values is. -/
theorem Config.equalBy_self {config : Config}
    (same : ∀ entry ∈ config.entries, compare entry.2 entry.2 = true) :
    config.equalBy compare config = true := by
  rw [Config.equalBy, beq_self_eq_true, Bool.true_and, List.all_eq_true]
  intro entry inside
  rw [OrderedMap.get?_of_mem inside]
  exact same entry inside

/-- What is the same for one comparison is so for any that finds more values the same. -/
theorem Config.equalBy_mono {wider : Scalar → Scalar → Bool}
    (finds : ∀ value other, compare value other = true → wider value other = true) {left right : Config}
    (same : left.equalBy compare right = true) : left.equalBy wider right = true := by
  rw [Config.equalBy, Bool.and_eq_true, List.all_eq_true] at same ⊢
  refine ⟨same.1, fun entry inside => ?_⟩
  have here := same.2 entry inside
  split at here
  · exact finds _ _ here
  · cases here

/-- Two blocks are the same if their types and their configurations are. -/
theorem Block.sameStructureBy_iff {left right : Block} :
    left.sameStructureBy compare right = true ↔
      left.typeId = right.typeId ∧ left.config.equalBy compare right.config = true := by
  rw [Block.sameStructureBy, Bool.and_eq_true, beq_iff_eq]

/-- Layouts are the same pair by pair of their blocks. -/
theorem sameLayoutBy_iff {left right : List Block} :
    sameLayoutBy compare left right = true ↔
      List.Forall₂ (fun block other => block.sameStructureBy compare other = true) left right := by
  rw [sameLayoutBy, Bool.and_eq_true, beq_iff_eq, List.all_eq_true, List.forall₂_iff_zip]
  exact and_congr_right fun _ =>
    ⟨fun each {_ _} inside => each _ inside, fun each _ inside => each inside⟩

/-- Layouts that are the same by value can be found equal, whatever they have in common. -/
theorem sameLayoutBy_maybeEqual {left right : List Block} (same : sameLayout left right = true) :
    sameLayoutBy Scalar.maybeEqual left right = true := by
  rw [sameLayout, sameLayoutBy_iff] at same
  refine sameLayoutBy_iff.mpr (same.imp fun block other here => ?_)
  rw [Block.sameStructureBy_iff] at here ⊢
  exact ⟨here.1, Config.equalBy_mono (fun _ _ => Scalar.maybeEqual_of_equal) here.2⟩

/-- Every layout can be found equal to itself, and is so as one object, NaNs included. -/
theorem sameLayoutBy_maybeEqual_self (layout : List Block) :
    sameLayoutBy Scalar.maybeEqual layout layout = true := by
  refine sameLayoutBy_iff.mpr (List.forall₂_same.mpr fun block _ => ?_)
  exact Block.sameStructureBy_iff.mpr
    ⟨rfl, Config.equalBy_self fun entry _ => Scalar.maybeEqual_self entry.2⟩

-- A NaN of one configuration is not the NaN of another.
example : sameLayout [{ typeId := "map", config := .ofList [("zoom", .float .nan)] }]
    [{ typeId := "map", config := .ofList [("zoom", .float .nan)] }] = false := by decide +kernel

end Comparisons

end BlockPage
