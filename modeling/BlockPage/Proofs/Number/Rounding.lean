/-
**Rounding a number that needs none.**

* `roundQuotient_scale`, `placeOfRatio_scale`: a ratio is rounded alike however it is reduced.
* `placeOfRatio_magnitude`, `ofRatio_magnitude`: a magnitude is rounded to its own place.
-/

import BlockPage.Number.Binary64.Basic

namespace BlockPage.Binary64

theorem binade_eq : binade = 0x10000000000000 := rfl

theorem unitsInOne_pos : 0 < unitsInOne := by decide +kernel

/-! ### Ratios -/

/-- A common factor changes no quotient. -/
theorem roundQuotient_scale (numerator denominator : Nat) {factor : Nat} (positive : 0 < factor) :
    roundQuotient (numerator * factor) (denominator * factor) =
      roundQuotient numerator denominator := by
  have below : ∀ {left right : Nat}, left * factor < right * factor ↔ left < right :=
    Nat.mul_lt_mul_right positive
  unfold roundQuotient
  dsimp only
  rw [Nat.mul_div_mul_right _ _ positive, Nat.mul_mod_mul_right, ← Nat.mul_assoc]
  simp only [below]

/-- A quotient without a remainder is not rounded. -/
theorem roundQuotient_exact (quotient : Nat) {denominator : Nat} (positive : 0 < denominator) :
    roundQuotient (quotient * denominator) denominator = quotient := by
  unfold roundQuotient
  dsimp only
  rw [Nat.mul_mod_left, Nat.mul_zero, if_pos positive, Nat.mul_div_cancel _ positive]

theorem placeOfRatio_scale (numerator denominator : Nat) {factor : Nat} (positive : 0 < factor) :
    placeOfRatio (numerator * factor) (denominator * factor) =
      placeOfRatio numerator denominator := by
  have scaled : numerator * factor * unitsInOne = numerator * unitsInOne * factor :=
    Nat.mul_right_comm _ _ _
  unfold placeOfRatio
  dsimp only
  rw [scaled, Nat.mul_div_mul_right _ _ positive, Nat.mul_right_comm denominator factor,
    roundQuotient_scale _ _ positive]

theorem ofRatio_scale (negative : Bool) (numerator denominator : Nat) {factor : Nat}
    (positive : 0 < factor) :
    ofRatio negative (numerator * factor) (denominator * factor) =
      ofRatio negative numerator denominator := by
  rw [ofRatio, placeOfRatio_scale _ _ positive]
  rfl

/-! ### Magnitudes -/

/-- A significand has at most 53 bits. -/
theorem significand_lt (place : Nat) : significand place < 0x20000000000000 := by
  have rest := Nat.mod_lt place (show 0 < binade by decide)
  rw [binade_eq] at rest
  unfold significand
  rw [binade_eq]
  split <;> omega

/-- The significand of a normal number has its leading bit. -/
theorem le_significand {place : Nat} (normal : binade ≤ place) : binade ≤ significand place := by
  unfold significand
  rw [if_neg (Nat.not_lt.mpr normal)]
  exact Nat.le_add_right _ _

/-- The binary exponent of a magnitude is the one that its place tells. -/
theorem log2_magnitude (place : Nat) : Nat.log2 (magnitude place) - 52 = scale place := by
  by_cases normal : binade ≤ place
  · have least : 2 ^ 52 ≤ significand place := le_significand normal
    have most := significand_lt place
    have positive : 0 < 2 ^ scale place := Nat.two_pow_pos _
    have nonzero : magnitude place ≠ 0 := by
      have : 0 < significand place := Nat.lt_of_lt_of_le (by decide) least
      exact Nat.ne_of_gt (Nat.mul_pos this positive)
    have exponent : Nat.log2 (magnitude place) = 52 + scale place := by
      rw [Nat.log2_eq_iff nonzero]
      refine ⟨?_, ?_⟩
      · rw [Nat.pow_add]
        exact Nat.mul_le_mul_right _ least
      · rw [Nat.add_right_comm, Nat.pow_add]
        exact (Nat.mul_lt_mul_right positive).mpr most
    omega
  · have small : place < 0x10000000000000 := Nat.lt_of_not_le normal
    have unscaled : scale place = 0 := by
      rw [scale, binade_eq, Nat.div_eq_of_lt small]
    have own : magnitude place = place := by
      rw [magnitude, unscaled, significand, binade_eq, if_pos small]
      exact Nat.mul_one place
    rw [unscaled, own]
    by_cases zero : place = 0
    · rw [zero]
      decide
    · have := (Nat.log2_lt zero).mpr (show place < 2 ^ 52 from small)
      omega

/-- Places count up within a binary exponent and from one to the next. -/
theorem scale_binade_add_significand (place : Nat) :
    scale place * binade + significand place = place := by
  unfold scale significand
  rw [binade_eq]
  split
  · omega
  · have := Nat.div_add_mod place (2 ^ 52)
    omega

/-- **A magnitude is rounded to its own place.** -/
theorem placeOfRatio_magnitude (place : Nat) :
    placeOfRatio (magnitude place) unitsInOne = place := by
  have rounded : roundQuotient (magnitude place * unitsInOne)
      (unitsInOne * Nat.pow 2 (scale place)) = significand place := by
    rw [magnitude, Nat.mul_assoc, Nat.mul_comm (Nat.pow 2 _)]
    exact roundQuotient_exact _ (Nat.mul_pos unitsInOne_pos (Nat.two_pow_pos _))
  unfold placeOfRatio
  dsimp only
  rw [Nat.mul_div_cancel _ unitsInOne_pos, log2_magnitude, rounded]
  exact scale_binade_add_significand place

/-- A magnitude is the number nearest itself. -/
theorem ofRatio_magnitude (negative : Bool) (place : Fin 0x7FF0000000000000) :
    ofRatio negative (magnitude place) unitsInOne = finite negative place := by
  rw [ofRatio, placeOfRatio_magnitude, ofPlace, dif_pos place.isLt]

end BlockPage.Binary64
