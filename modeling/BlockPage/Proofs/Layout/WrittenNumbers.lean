/-
**Written numbers are numbers of the grammar.**

* `Numeral.Writes`: a text is a number with a given meaning.
* `writes_layOut`: digits around a point, or before a power of ten, mean what they stand for.
* `writes_float`, `writes_integer`: a finite number and an integer of limited length are written as
  numbers that mean them.
* `exceedsLimit_iff`: the integers that have no written form.
-/

import BlockPage.Proofs.Layout.Grammar
import BlockPage.Proofs.Number.ReadBack

namespace BlockPage.Layout

open CodePoint Number

/-- The text is a number that means the lexeme. -/
def Numeral.Writes (text : Text) (lexeme : Lexeme) : Prop :=
  ∃ numeral : Numeral, numeral.IsWritten ∧ numeral.Denotes lexeme ∧ numeral.text = text

/-! ### Digits -/

theorem digitValues_append (front back : Text) :
    digitValues (front ++ back) = digitValues front ++ digitValues back := List.map_append

theorem digitValues_zeros (count : Nat) :
    digitValues (List.replicate count zero) = List.replicate count 0 := List.map_replicate

theorem isDigit_zeros (count : Nat) : ∀ point ∈ List.replicate count zero, isDigit point = true := by
  intro point inside
  rw [List.eq_of_mem_replicate inside]
  rfl

theorem isDigit_append {front back : Text} (first : ∀ point ∈ front, isDigit point = true)
    (second : ∀ point ∈ back, isDigit point = true) :
    ∀ point ∈ front ++ back, isDigit point = true := by
  intro point inside
  rcases List.mem_append.mp inside with inside | inside
  · exact first point inside
  · exact second point inside

/-- Zeros in front of a decimal do not count. -/
theorem ofDecimalText_zeros (count n : Nat) :
    ofDecimalText (List.replicate count zero ++ decimal n) = n := by
  rw [ofDecimalText, digitValues_append, digitValues_zeros, ofDigits_append, ofDigits_zeros,
    Nat.zero_mul, Nat.zero_add]
  exact ofDigits_decimal n

/-! ### Floating-point numbers -/

section Float

variable {sign : Text} {number : Binary64}

/-- Digits on both sides of a point. -/
theorem writes_fraction {whole fraction : Text} (signs : sign = [] ∨ sign = [hyphen])
    (isWhole : ∀ point ∈ whole, isDigit point = true)
    (isFraction : ∀ point ∈ fraction, isDigit point = true) (nonempty : whole ≠ [])
    (behind : fraction ≠ [])
    (reads : Binary64.ofDecimal (sign ≠ []) (digitValues (whole ++ fraction)) (-fraction.length) =
      number)
    (finite : number.isFinite = true) :
    Numeral.Writes (sign ++ (whole ++ fullStop :: fraction)) (.float number) := by
  refine ⟨⟨sign, whole, fraction, [], []⟩, ?_, ?_, ?_⟩
  · exact ⟨signs, nonempty, isWhole, isFraction, .inl ⟨rfl, rfl⟩⟩
  · refine .float (.inl behind) ?_ finite
    have power : (⟨sign, whole, fraction, [], []⟩ : Numeral).power = 0 := rfl
    rw [← reads, power, Int.zero_sub]
  · have shown : fraction.isEmpty = false := by simpa using behind
    rw [Numeral.text, shown]
    simp

/-- Digits with at most one of them before the point, before a power of ten. -/
theorem writes_exponent {digits : Text} {power : Int} (signs : sign = [] ∨ sign = [hyphen])
    (isDigits : ∀ point ∈ digits, isDigit point = true) (nonempty : digits ≠ []) (count : Nat)
    (reads : Binary64.ofDecimal (sign ≠ []) (digitValues digits) (power - (digits.drop 1).length) =
      number)
    (finite : number.isFinite = true) :
    Numeral.Writes (sign ++ (digits.take 1
      ++ (if (digits.drop 1).isEmpty then [] else fullStop :: digits.drop 1)
      ++ letterE :: (if power < 0 then hyphen else plus)
      :: List.replicate count zero ++ decimal power.natAbs)) (.float number) := by
  have listed : [letterE, if power < 0 then hyphen else plus] ∈ exponentMarks := by
    split <;> decide
  have shown : List.replicate count zero ++ decimal power.natAbs ≠ [] :=
    List.append_ne_nil_of_right_ne_nil _ (decimal_ne_nil _)
  refine ⟨⟨sign, digits.take 1, digits.drop 1, [letterE, if power < 0 then hyphen else plus],
    List.replicate count zero ++ decimal power.natAbs⟩, ?_, ?_, ?_⟩
  · refine ⟨signs, ?_, ?_, ?_, .inr ⟨listed, shown, ?_⟩⟩
    · cases digits with
      | nil => exact absurd rfl nonempty
      | cons => exact List.cons_ne_nil _ _
    · exact fun point inside => isDigits point (List.mem_of_mem_take inside)
    · exact fun point inside => isDigits point (List.mem_of_mem_drop inside)
    · exact isDigit_append (isDigit_zeros _) (isDigit_decimal _)
  · refine .float (.inr shown) ?_ finite
    dsimp only
    rw [List.take_append_drop, ← reads, Numeral.power, ofDecimalText_zeros]
    by_cases below : power < 0
    · have negative : -(power.natAbs : Int) = power := by omega
      have marked : hyphen ∈ [letterE, hyphen] := by decide
      rw [if_pos below, if_pos marked, negative]
    · have positive : (power.natAbs : Int) = power := by omega
      have unmarked : hyphen ∉ [letterE, plus] := by decide
      rw [if_neg below, if_neg unmarked, positive]
  · simp [Numeral.text]

/-- **Laid out digits mean what they stand for**, whether the point stands among them, in front of them
or behind them, or a power of ten takes its place. -/
theorem writes_layOut {digits : Text} {point : Int} (signs : sign = [] ∨ sign = [hyphen])
    (isDigits : ∀ point ∈ digits, isDigit point = true) (nonempty : digits ≠ [])
    (reads : Binary64.ofDecimal (sign ≠ []) (digitValues digits) (point - digits.length) = number)
    (finite : number.isFinite = true) :
    Numeral.Writes (sign ++ Binary64.layOut digits point) (.float number) := by
  have positive : 0 < digits.length := List.length_pos_iff.mpr nonempty
  have start : Text.ofString "0." = List.replicate 1 zero ++ [fullStop] := by decide
  have finish : Text.ofString ".0" = fullStop :: List.replicate 1 zero := by decide
  unfold Binary64.layOut
  by_cases positional : -4 < point ∧ point ≤ 16
  · rw [if_pos positional]
    by_cases front : point ≤ 0
    · rw [if_pos front, start, List.append_assoc, List.append_assoc, List.singleton_append]
      have isFraction := isDigit_append (isDigit_zeros (-point).toNat) isDigits
      refine writes_fraction signs (isDigit_zeros 1) isFraction (by decide)
        (List.append_ne_nil_of_right_ne_nil _ nonempty) ?_ finite
      rw [digitValues_append, digitValues_append, digitValues_zeros, digitValues_zeros,
        Binary64.ofDecimal_zeros_append, Binary64.ofDecimal_zeros_append, ← reads]
      congr 1
      rw [List.length_append, List.length_replicate]
      omega
    · rw [if_neg front]
      by_cases behind : (digits.length : Int) ≤ point
      · rw [if_pos behind, finish]
        have isWhole := isDigit_append isDigits (isDigit_zeros (point.toNat - digits.length))
        refine writes_fraction signs isWhole (isDigit_zeros 1)
          (List.append_ne_nil_of_left_ne_nil nonempty _) (by decide) ?_ finite
        rw [List.append_assoc, List.replicate_append_replicate, digitValues_append, digitValues_zeros,
          Binary64.ofDecimal_append_zeros, ← reads]
        congr 1
        rw [List.length_replicate]
        omega
      · rw [if_neg behind]
        refine writes_fraction signs
          (fun point inside => isDigits point (List.mem_of_mem_take inside))
          (fun point inside => isDigits point (List.mem_of_mem_drop inside)) ?_ ?_ ?_ finite
        · rw [Ne, List.take_eq_nil_iff, not_or]
          exact ⟨by omega, nonempty⟩
        · rw [Ne, List.drop_eq_nil_iff]
          omega
        · rw [List.take_append_drop, ← reads]
          congr 1
          rw [List.length_drop]
          omega
  · rw [if_neg positional]
    refine writes_exponent signs isDigits nonempty _ ?_ finite
    rw [← reads]
    congr 1
    rw [List.length_drop]
    omega

/-- What is cut off behind the last significant digit are zeros. -/
theorem exists_zeros (digits : Text) : ∃ count,
    digits = (digits.reverse.dropWhile (· == zero)).reverse ++ List.replicate count zero := by
  have zeros : digits.reverse.takeWhile (· == zero) =
      List.replicate (digits.reverse.takeWhile (· == zero)).length zero :=
    List.eq_replicate_of_mem fun point inside =>
      eq_of_beq (List.all_eq_true.mp List.all_takeWhile point inside)
  have cut : digits.reverse.takeWhile (· == zero) ++ digits.reverse.dropWhile (· == zero) =
      digits.reverse := List.takeWhile_append_dropWhile
  refine ⟨(digits.reverse.takeWhile (· == zero)).length, ?_⟩
  rw [← List.reverse_replicate, ← zeros, ← List.reverse_append, cut, List.reverse_reverse]

/-- The shortest decimal of a magnitude, with either sign. -/
theorem writes_magnitude (place : Fin 0x7FF0000000000000) (negative : Bool)
    (sign_eq : sign = if negative then [hyphen] else []) :
    Numeral.Writes (sign ++ Binary64.magnitudeText place) (.float (.finite negative place)) := by
  have signs : sign = [] ∨ sign = [hyphen] := by
    rw [sign_eq]
    cases negative <;> decide
  have negates : decide (sign ≠ []) = negative := by
    rw [sign_eq]
    cases negative <;> decide
  unfold Binary64.magnitudeText
  by_cases lowest : place.val = 0
  · have shown : Text.ofString "0.0" = List.replicate 1 zero ++ fullStop :: List.replicate 1 zero := by
      decide
    rw [if_pos lowest, shown]
    refine writes_fraction signs (isDigit_zeros 1) (isDigit_zeros 1) (by decide) (by decide) ?_ rfl
    have first : place = ⟨0, by decide⟩ := Fin.ext lowest
    rw [negates, first]
    rfl
  · rw [if_neg lowest]
    have positive : 0 < place.val := Nat.pos_of_ne_zero lowest
    have reads := Binary64.ofDecimal_sign negative (Binary64.number_shortest place positive)
    dsimp only
    obtain ⟨count, cut⟩ := exists_zeros (decimal (Binary64.shortest place).coefficient)
    generalize significant : ((decimal (Binary64.shortest place).coefficient).reverse.dropWhile
      (· == zero)).reverse = digits at cut ⊢
    rw [cut, digitValues_append, digitValues_zeros, Binary64.ofDecimal_append_zeros] at reads
    have isDigits : ∀ point ∈ digits, isDigit point = true := fun point inside =>
      isDigit_decimal _ point (cut ▸ List.mem_append_left _ inside)
    refine writes_layOut signs isDigits ?_ ?_ rfl
    · rintro rfl
      exact lowest (congrArg Fin.val (Binary64.finite.inj reads).2).symm
    · rw [negates, cut, List.length_append, List.length_replicate, ← reads]
      congr 1
      omega

/-- A finite number is written as a number that means it. -/
theorem writes_float (finite : number.isFinite = true) :
    Numeral.Writes number.text (.float number) := by
  cases number with
  | nan => cases finite
  | infinity => cases finite
  | finite negative place =>
    cases negative with
    | false => exact writes_magnitude place false rfl
    | true => exact writes_magnitude place true rfl

end Float

/-! ### Integers -/

/-- The limit is one on the digits of the integer without its sign. -/
theorem exceedsLimit_iff (value : Int) :
    Integer.exceedsLimit value = true ↔
      Integer.digitLimit < (decimal value.natAbs).length := by
  have limit : ∀ most, 0 < most →
      (decide (Nat.pow 10 most ≤ value.natAbs) = true ↔ most < (decimal value.natAbs).length) := by
    intro most positive
    have fits := length_decimal_le_iff value.natAbs positive
    rw [decide_eq_true_iff, ← Nat.not_lt]
    exact (not_congr fits.symm).trans Nat.not_le
  exact limit Integer.digitLimit (by decide)

/-- Digits that are not too many, behind a sign. -/
theorem writes_digits {sign : Text} {value : Int} (signs : sign = [] ∨ sign = [hyphen])
    (means : (if sign = [] then (value.natAbs : Int) else -value.natAbs) = value)
    (fits : (decimal value.natAbs).length ≤ Integer.digitLimit) :
    Numeral.Writes (sign ++ decimal value.natAbs) (.integer value) := by
  have denotes := @Numeral.Denotes.integer ⟨sign, decimal value.natAbs, [], [], []⟩ rfl rfl fits
  dsimp only at denotes
  rw [ofDigits_decimal, means] at denotes
  refine ⟨⟨sign, decimal value.natAbs, [], [], []⟩, ?_, denotes, ?_⟩
  · exact ⟨signs, decimal_ne_nil _, isDigit_decimal _, nofun, .inl ⟨rfl, rfl⟩⟩
  · simp [Numeral.text]

/-- An integer that is not too long is written as a number that means it. -/
theorem writes_integer {value : Int} {text : Text} (written : Integer.text? value = some text) :
    Numeral.Writes text (.integer value) := by
  unfold Integer.text? at written
  split at written
  · cases written
  · rename_i few
    have fits : (decimal value.natAbs).length ≤ Integer.digitLimit := by
      rwa [exceedsLimit_iff, Nat.not_lt] at few
    cases written
    unfold Integer.text
    by_cases below : value < 0
    · rw [if_pos below]
      have negative : -(value.natAbs : Int) = value := by omega
      exact writes_digits (.inr rfl) negative fits
    · rw [if_neg below]
      have positive : (value.natAbs : Int) = value := by omega
      exact writes_digits (.inl rfl) positive fits

end BlockPage.Layout
