/-
**Numbers that cannot overflow.**

An operation on floating-point numbers gives a finite one as long as its exact result is far enough below
the largest. Each rounding costs at most one power of two.

* `placeOfRatio_le`, `magnitude_lt_of_le`: where a ratio below a power of two is rounded to.
* `IsBelow`: a finite number of a magnitude below a power of two; `isBelow_ofRatio`, `IsBelow.add`,
  `IsBelow.sub`, `IsBelow.mul`: the operations keep such bounds.
-/

import BlockPage.Number.Binary64.Arithmetic
import BlockPage.Proofs.Number.ReadBack

namespace BlockPage.Binary64

open Number

/-! ### Rounding below a power of two -/

/-- Rounding adds at most one to the quotient. -/
theorem roundQuotient_le (numerator denominator : Nat) :
    roundQuotient numerator denominator ≤ numerator / denominator + 1 := by
  unfold roundQuotient
  dsimp only
  split
  · exact Nat.le_succ _
  · split
    · exact Nat.le_refl _
    · have := Nat.mod_lt (numerator / denominator) (show 0 < 2 by decide)
      omega

theorem lt_pow_log2 {number bits : Nat} (most : Nat.log2 number ≤ bits) :
    number < Nat.pow 2 (bits + 1) := by
  by_cases zero : number = 0
  · rw [zero]
    exact Nat.two_pow_pos _
  · exact (Nat.log2_lt zero).mp (Nat.lt_succ_of_le most)

theorem log2_lt_of_lt {number bits : Nat} (positive : 0 < bits) (small : number < Nat.pow 2 bits) :
    Nat.log2 number < bits := by
  by_cases zero : number = 0
  · rwa [zero, Nat.log2_zero]
  · exact (Nat.log2_lt zero).mpr small

theorem pow_mul_unitsInOne (exponent : Nat) :
    Nat.pow 2 exponent * unitsInOne = Nat.pow 2 (exponent + 1074) := by
  have sum : ∀ bits, Nat.pow 2 exponent * Nat.pow 2 bits = Nat.pow 2 (exponent + bits) :=
    fun bits => (natPow_add 2 exponent bits).symm
  unfold unitsInOne
  apply sum

/-- A significand has at most fifty-three bits. -/
theorem div_pow_lt {number shift : Nat} (shifted : Nat.log2 number - 52 = shift) :
    number / Nat.pow 2 shift < 0x20000000000000 := by
  have bits : number < Nat.pow 2 (52 + shift + 1) := lt_pow_log2 (by omega)
  rw [show 52 + shift + 1 = 53 + shift by omega, natPow_add] at bits
  exact (Nat.div_lt_iff_lt_mul (natPow_pos (by decide) shift)).mpr bits

/-- A ratio below a power of two is rounded to a place of that exponent at most. -/
theorem placeOfRatio_le {numerator denominator exponent : Nat} (positive : 0 < denominator)
    (small : numerator < Nat.pow 2 exponent * denominator) :
    placeOfRatio numerator denominator ≤ (exponent + 1023) * binade := by
  unfold placeOfRatio
  dsimp only
  generalize scaledBy : numerator * unitsInOne / denominator = quotient
  have bound : quotient < Nat.pow 2 (exponent + 1074) := by
    rw [← scaledBy, Nat.div_lt_iff_lt_mul positive, ← pow_mul_unitsInOne, Nat.mul_right_comm]
    exact Nat.mul_lt_mul_of_pos_right small unitsInOne_pos
  have most := log2_lt_of_lt (by omega) bound
  generalize shifted : Nat.log2 quotient - 52 = shift
  have significand := div_pow_lt shifted
  rw [← scaledBy, Nat.div_div_eq_div_mul] at significand
  have rounded := roundQuotient_le (numerator * unitsInOne) (denominator * Nat.pow 2 shift)
  have places : shift ≤ exponent + 1021 := by omega
  generalize roundQuotient (numerator * unitsInOne) (denominator * Nat.pow 2 shift) = rest at rounded ⊢
  generalize numerator * unitsInOne / (denominator * Nat.pow 2 shift) = part at rounded significand
  -- a significand with all bits set may still be rounded up to the next exponent
  clear small most shifted bound scaledBy
  rw [binade_eq]
  omega

/-- A place that is not above that of a power of two has a magnitude below the next one. -/
theorem magnitude_lt_of_le {place exponent : Nat} (small : place ≤ (exponent + 1023) * binade) :
    magnitude place < Nat.pow 2 (exponent + 1) * unitsInOne := by
  have scaled : scale place ≤ exponent + 1022 := by
    have := Nat.div_le_of_le_mul (show place ≤ binade * (exponent + 1023) by rwa [Nat.mul_comm])
    unfold scale
    omega
  calc magnitude place < Nat.pow 2 53 * Nat.pow 2 (scale place) :=
        Nat.mul_lt_mul_of_pos_right (significand_lt place) (natPow_pos (by decide) _)
    _ ≤ Nat.pow 2 53 * Nat.pow 2 (exponent + 1022) :=
        Nat.mul_le_mul_left _ (Nat.pow_le_pow_right (by decide) scaled)
    _ = Nat.pow 2 (exponent + 1) * unitsInOne := by
        rw [← natPow_add, pow_mul_unitsInOne, show 53 + (exponent + 1022) = exponent + 1 + 1074 by omega]

/-! ### Bounded numbers -/

/-- A finite number of a magnitude below a power of two. -/
inductive IsBelow (exponent : Nat) : Binary64 → Prop
  | ofPlace (negative : Bool) (place : Fin 0x7FF0000000000000)
      (small : magnitude place < Nat.pow 2 exponent * unitsInOne) : IsBelow exponent (finite negative place)

theorem IsBelow.isFinite {exponent : Nat} {number : Binary64} (below : IsBelow exponent number) :
    number.isFinite = true := by
  obtain ⟨negative, place, -⟩ := below
  rfl

/-- A quotient below a power of two rounds to a number below the next one. -/
theorem isBelow_ofRatio (negative : Bool) {numerator denominator exponent : Nat}
    (positive : 0 < denominator) (small : numerator < Nat.pow 2 exponent * denominator)
    (representable : exponent < 1024) :
    IsBelow (exponent + 1) (ofRatio negative numerator denominator) := by
  have place := placeOfRatio_le positive small
  have fits : placeOfRatio numerator denominator < 0x7FF0000000000000 := by
    have : (exponent + 1023) * binade ≤ 2046 * binade := Nat.mul_le_mul_right _ (by omega)
    rw [binade_eq] at this place
    omega
  rw [ofRatio, ofPlace, dif_pos fits]
  exact .ofPlace negative ⟨_, fits⟩ (magnitude_lt_of_le place)

theorem isBelow_ofInt {value : Int} {exponent : Nat} (small : value.natAbs < Nat.pow 2 exponent)
    (representable : exponent < 1024) : IsBelow (exponent + 1) (ofInt value) :=
  isBelow_ofRatio _ Nat.one_pos (by rwa [Nat.mul_one]) representable

section Operations

variable {exponent other : Nat} {left right : Binary64}

theorem IsBelow.neg (below : IsBelow exponent left) : IsBelow exponent left.neg := by
  obtain ⟨negative, place, small⟩ := below
  exact .ofPlace (!negative) place small

/-- A sum is below twice the larger bound, before it is rounded. -/
theorem IsBelow.add (first : IsBelow exponent left) (second : IsBelow exponent right)
    (representable : exponent < 1023) : IsBelow (exponent + 2) (left.add right) := by
  obtain ⟨negative, place, small⟩ := first
  obtain ⟨negative', place', small'⟩ := second
  show IsBelow (exponent + 1 + 1) (ofUnits _ _ 1)
  refine isBelow_ofRatio _ (Nat.mul_pos unitsInOne_pos Nat.one_pos) ?_ (by omega)
  rw [Nat.mul_one, natPow_succ, Nat.mul_assoc, Nat.two_mul]
  dsimp only
  generalize Nat.pow 2 exponent * unitsInOne = bound at small small' ⊢
  generalize magnitude place = first at small ⊢
  generalize magnitude place' = second at small' ⊢
  cases negative <;> cases negative' <;>
    simp only [if_true, Bool.false_eq_true, if_false] <;> omega

theorem IsBelow.sub (first : IsBelow exponent left) (second : IsBelow exponent right)
    (representable : exponent < 1023) : IsBelow (exponent + 2) (left.sub right) :=
  first.add second.neg representable

/-- The bounds of a product add up, before it is rounded. -/
theorem IsBelow.mul (first : IsBelow exponent left) (second : IsBelow other right)
    (representable : exponent + other < 1024) : IsBelow (exponent + other + 1) (left.mul right) := by
  obtain ⟨negative, place, small⟩ := first
  obtain ⟨negative', place', small'⟩ := second
  refine isBelow_ofRatio _ (Nat.mul_pos unitsInOne_pos unitsInOne_pos) ?_ representable
  calc magnitude place * magnitude place' < Nat.pow 2 exponent * unitsInOne * (Nat.pow 2 other * unitsInOne) :=
        Nat.mul_lt_mul'' small small'
    _ = Nat.pow 2 (exponent + other) * (unitsInOne * unitsInOne) := by
        rw [natPow_add, Nat.mul_mul_mul_comm]

theorem IsBelow.mono (below : IsBelow exponent left) (most : exponent ≤ other) : IsBelow other left := by
  obtain ⟨negative, place, small⟩ := below
  exact .ofPlace negative place (Nat.lt_of_lt_of_le small
    (Nat.mul_le_mul_right _ (Nat.pow_le_pow_right (by decide) most)))

end Operations

end BlockPage.Binary64
