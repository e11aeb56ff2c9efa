/-
**The decimal that is written for a number reads back.**

* `isDigit_decimal`, `length_decimal_le_iff`, `ofDigits_append`: digits of natural numbers.
* `ofDecimal_zeros_append`, `ofDecimal_append_zeros`: zeros around digits only move the point.
* `number_shortest`: the shortest decimal of a place reads back, also where the search for it ends
  without one.
-/

import BlockPage.Number.Binary64.Decimal
import BlockPage.Proofs.Number.Rounding
import Mathlib.Tactic.SplitIfs

namespace BlockPage

open Number

namespace Number

/-! ### Powers -/

theorem natPow_succ (base exponent : Nat) :
    Nat.pow base (exponent + 1) = base * Nat.pow base exponent := Nat.pow_succ'

theorem natPow_add (base first second : Nat) :
    Nat.pow base (first + second) = Nat.pow base first * Nat.pow base second :=
  Nat.pow_add base first second

theorem natPow_pos {base : Nat} (positive : 0 < base) (exponent : Nat) : 0 < Nat.pow base exponent :=
  Nat.pow_pos positive

/-! ### Digits -/

theorem decimal_ne_nil (n : Nat) : decimal n ≠ [] := by
  rw [decimal, Ne, List.map_eq_nil_iff]
  exact Nat.toDigits_ne_nil

theorem isDigit_decimal (n : Nat) : ∀ point ∈ decimal n, CodePoint.isDigit point = true := by
  intro point inside
  obtain ⟨digit, listed, rfl⟩ := List.mem_map.mp inside
  have isDigit : digit.isDigit = true := Nat.isDigit_of_mem_toDigits (by decide) (by decide) listed
  rw [Char.isDigit, Bool.and_eq_true, decide_eq_true_eq, decide_eq_true_eq] at isDigit
  rw [CodePoint.isDigit, Bool.and_eq_true, decide_eq_true_eq, decide_eq_true_eq]
  exact isDigit

/-- An integer has few digits when it is below the power of ten. -/
theorem length_decimal_le_iff (n : Nat) {most : Nat} (positive : 0 < most) :
    (decimal n).length ≤ most ↔ n < Nat.pow 10 most := by
  rw [decimal, List.length_map]
  exact Nat.length_toDigits_le_iff (by decide) positive

theorem digitValues_lt {text : Text} (digits : ∀ point ∈ text, CodePoint.isDigit point = true) :
    ∀ value ∈ digitValues text, value < 10 := by
  intro value listed
  obtain ⟨point, inside, rfl⟩ := List.mem_map.mp listed
  have isDigit := digits point inside
  rw [CodePoint.isDigit, Bool.and_eq_true, decide_eq_true_eq, decide_eq_true_eq] at isDigit
  have : point < 0x30 + 10 := Nat.lt_succ_of_le isDigit.2
  exact Nat.sub_lt_left_of_lt_add isDigit.1 this

theorem ofDigits_append (base : Nat) (front back : List Nat) :
    ofDigits base (front ++ back) =
      ofDigits base front * Nat.pow base back.length + ofDigits base back := by
  have go : ∀ (digits : List Nat) (value : Nat),
      digits.foldl (fun value digit => base * value + digit) value =
        value * Nat.pow base digits.length + ofDigits base digits := by
    intro digits
    induction digits with
    | nil => simp [ofDigits]
    | cons digit digits ih =>
      intro value
      rw [ofDigits, List.foldl_cons, List.foldl_cons, ih, ih, List.length_cons, natPow_succ,
        Nat.mul_zero, Nat.zero_add, Nat.add_mul, Nat.add_assoc, ← Nat.mul_assoc,
        Nat.mul_comm value base]
  rw [ofDigits, List.foldl_append, go]
  rfl

/-- Leading zeros do not count. -/
theorem ofDigits_dropWhile (base : Nat) (digits : List Nat) :
    ofDigits base (digits.dropWhile (· == 0)) = ofDigits base digits := by
  induction digits with
  | nil => rfl
  | cons digit digits ih =>
    by_cases zero : digit = 0
    · rw [List.dropWhile_cons_of_pos (by rw [zero]; rfl), ih, zero, ofDigits, ofDigits,
        List.foldl_cons, Nat.mul_zero]
    · rw [List.dropWhile_cons_of_neg (by simpa using zero)]

/-- Digits of a base denote less than the power of their number. -/
theorem ofDigits_lt {base : Nat} {digits : List Nat} (small : ∀ digit ∈ digits, digit < base) :
    ofDigits base digits < Nat.pow base digits.length := by
  induction digits with
  | nil => exact Nat.one_pos
  | cons digit digits ih =>
    have first := small digit (.head _)
    have behind := ih fun digit inside => small digit (.tail _ inside)
    have alone : ofDigits base [digit] = digit := by
      rw [ofDigits, List.foldl_cons, List.foldl_nil, Nat.mul_zero, Nat.zero_add]
    rw [← List.singleton_append, ofDigits_append, alone, List.singleton_append, List.length_cons,
      natPow_succ]
    calc digit * Nat.pow base digits.length + ofDigits base digits
        < digit * Nat.pow base digits.length + Nat.pow base digits.length :=
          Nat.add_lt_add_left behind _
      _ = (digit + 1) * Nat.pow base digits.length := (Nat.succ_mul _ _).symm
      _ ≤ base * Nat.pow base digits.length := Nat.mul_le_mul_right _ first

theorem ofDigits_zeros (base count : Nat) : ofDigits base (List.replicate count 0) = 0 := by
  induction count with
  | zero => rfl
  | succ count ih => rwa [List.replicate_succ, ofDigits, List.foldl_cons, Nat.mul_zero]

end Number

namespace Binary64

/-! ### Zeros around digits -/

/-- The number nearest a coefficient times a power of ten. -/
def ofScaled (negative : Bool) (coefficient : Nat) (exponent : Int) : Binary64 :=
  if 0 ≤ exponent then ofRatio negative (coefficient * Nat.pow 10 exponent.toNat) 1
  else ofRatio negative coefficient (Nat.pow 10 (-exponent).toNat)

section Zeros

variable (negative : Bool)

/-- Significant digits denote a quotient that is rounded, except where the exponent alone decides. -/
theorem ofSignificant_eq (digits : List Nat) (point : Int) :
    ofSignificant negative digits point =
      if digits.isEmpty then zero negative
      else if point > 310 then infinity negative
      else if point < -325 then zero negative
      else ofScaled negative (ofDigits 10 digits) (point - digits.length) := rfl

theorem ofSignificant_nil (point : Int) : ofSignificant negative [] point = zero negative := rfl

/-- Any power of ten that leaves no fraction may stand below. -/
theorem ofScaled_eq (coefficient : Nat) (exponent : Int) (shift : Nat)
    (enough : 0 ≤ exponent + shift) :
    ofScaled negative coefficient exponent =
      ofRatio negative (coefficient * Nat.pow 10 (exponent + shift).toNat) (Nat.pow 10 shift) := by
  unfold ofScaled
  split
  · have power : Nat.pow 10 (exponent + shift).toNat =
        Nat.pow 10 exponent.toNat * Nat.pow 10 shift := by
      rw [← natPow_add]
      congr 1
      omega
    have scaled := ofRatio_scale negative (coefficient * Nat.pow 10 exponent.toNat) 1
      (natPow_pos (show 0 < 10 by decide) shift)
    rw [power, ← Nat.mul_assoc]
    rw [Nat.one_mul] at scaled
    exact scaled.symm
  · have power : Nat.pow 10 shift =
        Nat.pow 10 (-exponent).toNat * Nat.pow 10 (exponent + shift).toNat := by
      rw [← natPow_add]
      congr 1
      omega
    rw [power, ofRatio_scale _ _ _ (natPow_pos (by decide) _)]

/-- Zeros of the coefficient move to the exponent. -/
theorem ofScaled_mul_pow (coefficient count : Nat) (exponent : Int) :
    ofScaled negative (coefficient * Nat.pow 10 count) exponent =
      ofScaled negative coefficient (exponent + count) := by
  have enough : 0 ≤ exponent + exponent.natAbs := by omega
  have power : (exponent + count + exponent.natAbs).toNat =
      count + (exponent + exponent.natAbs).toNat := by omega
  rw [ofScaled_eq negative _ exponent exponent.natAbs enough,
    ofScaled_eq negative _ (exponent + count) exponent.natAbs (by omega), power, natPow_add,
    Nat.mul_assoc]

/-- Zeros behind significant digits change nothing. -/
theorem ofSignificant_append_zeros (digits : List Nat) (count : Nat) (point : Int)
    (nonempty : digits ≠ []) :
    ofSignificant negative (digits ++ List.replicate count 0) point =
      ofSignificant negative digits point := by
  have first : (digits ++ List.replicate count 0).isEmpty = false := by
    simpa using fun empty => absurd empty nonempty
  have second : digits.isEmpty = false := by
    simpa using nonempty
  have place : point - ((digits ++ List.replicate count 0).length : Nat) + count =
      point - digits.length := by
    rw [List.length_append, List.length_replicate]
    omega
  rw [ofSignificant_eq, ofSignificant_eq, first, second, ofDigits_append, ofDigits_zeros,
    List.length_replicate, Nat.add_zero, ofScaled_mul_pow, place]

theorem dropWhile_zeros (count : Nat) (digits : List Nat) :
    (List.replicate count 0 ++ digits).dropWhile (· == 0) = digits.dropWhile (· == 0) := by
  induction count with
  | zero => rfl
  | succ count ih => rwa [List.replicate_succ, List.cons_append, List.dropWhile_cons_of_pos rfl]

/-- Zeros in front do not count. -/
theorem ofDecimal_zeros_append (digits : List Nat) (count : Nat) (exponent : Int) :
    ofDecimal negative (List.replicate count 0 ++ digits) exponent =
      ofDecimal negative digits exponent := by
  rw [ofDecimal, dropWhile_zeros]
  rfl

/-- Zeros behind are powers of ten. -/
theorem ofDecimal_append_zeros (digits : List Nat) (count : Nat) (exponent : Int) :
    ofDecimal negative (digits ++ List.replicate count 0) exponent =
      ofDecimal negative digits (exponent + count) := by
  unfold ofDecimal
  dsimp only
  rw [List.dropWhile_append]
  cases kept : digits.dropWhile (· == 0) with
  | nil =>
    have dropped : (List.replicate count 0).dropWhile (· == 0) = [] := by
      have zeros := dropWhile_zeros count []
      rwa [List.append_nil] at zeros
    rw [List.isEmpty_nil, if_pos rfl, dropped, ofSignificant_nil, ofSignificant_nil]
  | cons first rest =>
    rw [List.isEmpty_cons, if_neg (by decide),
      ofSignificant_append_zeros _ _ _ _ (List.cons_ne_nil _ _), List.length_append, List.length_replicate]
    congr 1
    omega

end Zeros

/-! ### Signs -/

section Signs

variable {place : Fin 0x7FF0000000000000} (negative : Bool)

/-- The sign has no part in rounding: what is shown of the number without it holds with it. -/
theorem ofRatio_sign {numerator denominator : Nat}
    (same : ofRatio false numerator denominator = finite false place) :
    ofRatio negative numerator denominator = finite negative place := by
  unfold ofRatio ofPlace at same ⊢
  by_cases small : placeOfRatio numerator denominator < 0x7FF0000000000000
  · rw [dif_pos small] at same ⊢
    rw [(Binary64.finite.inj same).2]
  · rw [dif_neg small] at same
    cases same

theorem ofScaled_sign {coefficient : Nat} {exponent : Int}
    (same : ofScaled false coefficient exponent = finite false place) :
    ofScaled negative coefficient exponent = finite negative place := by
  unfold ofScaled at same ⊢
  split_ifs at same ⊢
  · exact ofRatio_sign negative same
  · exact ofRatio_sign negative same

theorem ofSignificant_sign {digits : List Nat} {point : Int}
    (same : ofSignificant false digits point = finite false place) :
    ofSignificant negative digits point = finite negative place := by
  have zeros : zero false = finite false place → zero negative = finite negative place := by
    intro same
    rw [← (Binary64.finite.inj same).2]
    rfl
  rw [ofSignificant_eq] at same ⊢
  split_ifs at same ⊢
  · exact zeros same
  · exact zeros same
  · exact ofScaled_sign negative same

/-- The sign of what digits stand for is the one that is put on. -/
theorem ofDecimal_sign {digits : List Nat} {exponent : Int}
    (same : ofDecimal false digits exponent = finite false place) :
    ofDecimal negative digits exponent = finite negative place :=
  ofSignificant_sign negative same

end Signs

/-! ### The shortest decimal -/

/-- **The exact decimal of a number is read back as it.** -/
theorem ofScaled_magnitude (place : Fin 0x7FF0000000000000) :
    ofScaled false (exactDecimal place).coefficient (exactDecimal place).exponent =
      finite false place := by
  have units : Nat.pow 10 1074 = unitsInOne * Nat.pow 5 1074 := by decide +kernel
  have positive : 0 < Nat.pow 5 1074 := by decide +kernel
  have below : ¬ (0 : Int) ≤ -1074 := by decide
  have shift : (-(-1074 : Int)).toNat = 1074 := rfl
  rw [exactDecimal, ofScaled, if_neg below, shift, units, ofRatio_scale _ _ _ positive,
    ofRatio_magnitude]

theorem magnitude_pos {place : Nat} (positive : 0 < place) : 0 < magnitude place := by
  refine Nat.mul_pos ?_ (Nat.two_pow_pos _)
  by_cases normal : binade ≤ place
  · exact Nat.lt_of_lt_of_le (by decide) (le_significand normal)
  · rwa [significand, if_pos (Nat.lt_of_not_le normal)]

/-- The largest magnitude is below `2 ^ 1024`. -/
theorem magnitude_lt (place : Fin 0x7FF0000000000000) : magnitude place < Nat.pow 2 2098 := by
  have most : scale place ≤ 2045 := by
    have := place.isLt
    rw [scale, binade_eq]
    omega
  have monotone : ∀ exponent, scale place ≤ exponent →
      Nat.pow 2 (scale place) ≤ Nat.pow 2 exponent := fun _ => Nat.pow_le_pow_right (by decide)
  have power : Nat.pow 2 2098 = Nat.pow 2 53 * Nat.pow 2 2045 := by decide +kernel
  rw [power]
  exact Nat.mul_lt_mul_of_lt_of_le (significand_lt place) (monotone 2045 most) (by decide +kernel)

/-- A decimal inside the range in which the power of ten is looked at is read as it is. -/
theorem number_eq_ofScaled (value : Decimal) (low high : Nat)
    (least : Nat.pow 10 low ≤ value.coefficient) (most : value.coefficient < Nat.pow 10 high)
    (above : -325 ≤ low + 1 + value.exponent) (below : high + value.exponent ≤ 310) :
    value.number = ofScaled false value.coefficient value.exponent := by
  unfold Decimal.number ofDecimal
  dsimp only
  have small : ∀ digit ∈ (digitValues (decimal value.coefficient)).dropWhile (· == 0), digit < 10 :=
    fun digit inside => digitValues_lt (isDigit_decimal _) digit ((List.dropWhile_suffix _).mem inside)
  have reads : ofDigits 10 ((digitValues (decimal value.coefficient)).dropWhile (· == 0)) =
      value.coefficient := by
    rw [ofDigits_dropWhile]
    exact ofDigits_decimal _
  have longest : ((digitValues (decimal value.coefficient)).dropWhile (· == 0)).length ≤ high := by
    refine Nat.le_trans (List.dropWhile_suffix _).length_le ?_
    rw [digitValues, List.length_map]
    have nonzero : high ≠ 0 := by
      rintro rfl
      exact absurd (Nat.le_trans (Nat.pow_pos (by decide)) least) (Nat.not_le.mpr most)
    exact (length_decimal_le_iff _ (Nat.pos_of_ne_zero nonzero)).mpr most
  generalize (digitValues (decimal value.coefficient)).dropWhile (· == 0) = digits at *
  have bound := ofDigits_lt small
  rw [reads] at bound
  have shortest : low < digits.length :=
    (Nat.pow_lt_pow_iff_right (by decide)).mp (Nat.lt_of_le_of_lt least bound)
  rw [ofSignificant_eq, reads, if_neg, if_neg, if_neg]
  · congr 1
    omega
  · omega
  · omega
  · rw [List.isEmpty_iff]
    rintro rfl
    cases shortest

/-- The exact decimal reads back. -/
theorem number_exactDecimal (place : Fin 0x7FF0000000000000) (positive : 0 < place.val) :
    (exactDecimal place).number = finite false place := by
  have least : Nat.pow 10 749 ≤ (exactDecimal place).coefficient := by
    have small : Nat.pow 10 749 ≤ Nat.pow 5 1074 := by decide +kernel
    exact Nat.le_trans small (Nat.le_mul_of_pos_left _ (magnitude_pos positive))
  have most : (exactDecimal place).coefficient < Nat.pow 10 1384 := by
    have large : Nat.pow 2 2098 * Nat.pow 5 1074 < Nat.pow 10 1384 := by decide +kernel
    exact Nat.lt_trans ((Nat.mul_lt_mul_right (by decide +kernel)).mpr (magnitude_lt place)) large
  have above : (-325 : Int) ≤ 749 + 1 + -1074 := by decide
  have below : (1384 : Int) + -1074 ≤ 310 := by decide
  rw [number_eq_ofScaled (exactDecimal place) 749 1384 least most above below]
  exact ofScaled_magnitude place

/-- What the search for the shortest decimal finds reads back. -/
theorem number_nearestDecimal? {place : Fin 0x7FF0000000000000} {point : Int} {digits : Nat}
    {value : Decimal} (found : nearestDecimal? place point digits = some value) :
    value.number = finite false place := by
  unfold nearestDecimal? at found
  dsimp only at found
  have reads := List.find?_some found
  exact eq_of_beq reads

/-- The shortest decimal of a number reads back. -/
theorem number_shortest (place : Fin 0x7FF0000000000000) (positive : 0 < place.val) :
    (shortest place).number = finite false place := by
  unfold shortest
  dsimp only
  cases found : (List.range 17).findSome? fun digits =>
      nearestDecimal? place (decimalPoint place) (digits + 1) with
  | none => exact number_exactDecimal place positive
  | some value =>
    obtain ⟨digits, _, near⟩ := List.exists_of_findSome?_eq_some found
    exact number_nearestDecimal? near

end Binary64

end BlockPage
