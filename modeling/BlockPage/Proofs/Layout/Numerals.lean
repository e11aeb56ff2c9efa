/-
**Numbers are scanned as the grammar has them.**

A number is read part by part, each part as far as it goes. What follows a number begins with nothing
that could continue any of its parts, so reading its text gives the parts back.

* `takeWhile_of_stops`, `dropWhile_of_stops`: a class of code points is taken up to what is not in it.
* `numeral_of_parts`: the parts of a number, from the parts of what follows each of them.
* `numeral_of_written`, `written_of_numeral`: the number at the start of a source.
* `numeral_append`, `numeral_longest`: no longer number stands there.
* `value_eq`, `value_eq_ok_iff`: the value of a number is what it denotes.
-/

import BlockPage.Proofs.Layout.Grammar
import Mathlib.Tactic.SplitIfs

namespace BlockPage.Layout

open CodePoint Number

/-! ### Spans -/

section Spans

variable {test : CodePoint → Bool} {body following : Text}

theorem stops_nil : Stops test [] := fun _ inside => nomatch inside

theorem stops_cons_iff {point : CodePoint} {rest : Text} :
    Stops test (point :: rest) ↔ test point = false := by
  simp [Stops]

/-- A run stops where it was cut off. -/
theorem stops_dropWhile (test : CodePoint → Bool) (source : Text) :
    Stops test (source.dropWhile test) := by
  intro point member
  have stopped := List.head?_dropWhile_not test source
  rw [Option.mem_def.mp member] at stopped
  simpa using stopped

/-- A run of fewer code points stops at the same place. -/
theorem Stops.mono {other : CodePoint → Bool} (stops : Stops test following)
    (fewer : ∀ point, other point = true → test point = true) : Stops other following := by
  intro point member
  rw [← Bool.not_eq_true]
  intro inside
  have outside := stops point member
  rw [fewer point inside] at outside
  cases outside

theorem takeWhile_of_stops (inside : ∀ point ∈ body, test point = true)
    (stops : Stops test following) : (body ++ following).takeWhile test = body := by
  rw [List.takeWhile_append_of_pos inside]
  cases following with
  | nil => simp
  | cons point rest =>
    rw [List.takeWhile_cons_of_neg (by simp [stops_cons_iff.mp stops]), List.append_nil]

theorem dropWhile_of_stops (inside : ∀ point ∈ body, test point = true)
    (stops : Stops test following) : (body ++ following).dropWhile test = following := by
  rw [List.dropWhile_append_of_pos inside]
  cases following with
  | nil => rfl
  | cons point rest => rw [List.dropWhile_cons_of_neg (by simp [stops_cons_iff.mp stops])]

end Spans

/-! ### Numbers -/

section Numbers

variable {numeral : Numeral} {following : Text}

/-- Digits are read up to the first code point that is none. -/
theorem digits_of_stops {body : Text} (inside : ∀ point ∈ body, isDigit point = true)
    (stops : Stops isDigit following) : digits (body ++ following) = (body, following) := by
  rw [digits, takeWhile_of_stops inside stops, dropWhile_of_stops inside stops]

/-- A full stop with digits behind it is a fraction. -/
theorem fractionPart_digits {fraction : Text} (nonempty : fraction ≠ [])
    (inside : ∀ point ∈ fraction, isDigit point = true) (stops : Stops isDigit following) :
    fractionPart (fullStop :: (fraction ++ following)) = (fraction, following) := by
  cases fraction with
  | nil => contradiction
  | cons digit rest =>
    rw [List.cons_append, fractionPart]
    rw [if_pos (inside digit List.mem_cons_self), ← List.cons_append, digits_of_stops inside stops]

/-- Without a full stop there is no fraction. -/
theorem fractionPart_none (stops : Stops (· == fullStop) following) :
    fractionPart following = ([], following) := by
  unfold fractionPart
  split
  · simp [stops_cons_iff] at stops
  · rfl

/-- A mark with digits behind it is an exponent. -/
theorem exponentPart_digits {mark exponent : Text} (listed : mark ∈ exponentMarks)
    (nonempty : exponent ≠ []) (inside : ∀ point ∈ exponent, isDigit point = true)
    (stops : Stops isDigit following) :
    exponentPart (mark ++ (exponent ++ following)) = (mark, exponent, following) := by
  obtain ⟨digit, rest, rfl⟩ := List.exists_cons_of_ne_nil nonempty
  have first : isDigit digit = true := inside digit List.mem_cons_self
  have read := digits_of_stops inside stops
  rw [List.cons_append] at read
  simp only [exponentMarks, List.mem_cons, List.not_mem_nil, or_false] at listed
  rcases listed with rfl | rfl | rfl | rfl | rfl | rfl <;>
    simp [exponentPart, first, read, show isDigit plus = false from rfl,
      show isDigit hyphen = false from rfl]

/-- The letters of an exponent. -/
theorem exponentPart_none (stops : Stops (fun point => point == letterE || point == 0x45) following) :
    exponentPart following = ([], [], following) := by
  unfold exponentPart
  split
  · rw [if_neg]
    simpa [stops_cons_iff] using stops
  · rfl

/-- A numeral is read part by part. -/
theorem numeral_of_parts {sign unsigned whole behindWhole fraction behindFraction mark exponent
    rest : Text} (signs : sign = [] ∧ Stops (· == hyphen) unsigned ∨ sign = [hyphen])
    (wholes : digits unsigned = (whole, behindWhole))
    (fractions : fractionPart behindWhole = (fraction, behindFraction))
    (exponents : exponentPart behindFraction = (mark, exponent, rest)) :
    Layout.numeral (sign ++ unsigned) = (⟨sign, whole, fraction, mark, exponent⟩, rest) := by
  unfold Layout.numeral
  rcases signs with ⟨rfl, stops⟩ | rfl
  · rw [List.nil_append]
    split
    rename_i parts
    split at parts
    · simp [stops_cons_iff] at stops
    · cases parts
      simp [wholes, fractions, exponents]
  · simp [wholes, fractions, exponents]


theorem numeral_text (numeral : Numeral) (following : Text) :
    numeral.text ++ following = numeral.sign ++ (numeral.whole ++
      ((if numeral.fraction.isEmpty then [] else fullStop :: numeral.fraction) ++
        (numeral.mark ++ (numeral.exponent ++ following)))) := by
  simp only [Numeral.text, List.append_assoc]

/-- A number without a sign does not begin with one. -/
theorem Numeral.IsWritten.signs (written : numeral.IsWritten) (following : Text) :
    numeral.sign = [] ∧ Stops (· == hyphen) (numeral.whole ++ following) ∨
      numeral.sign = [hyphen] := by
  refine written.sign.imp_left fun unsigned => ⟨unsigned, ?_⟩
  obtain ⟨digit, rest, whole⟩ := List.exists_cons_of_ne_nil written.nonempty
  have first := written.whole digit (by simp [whole])
  rw [whole, List.cons_append, stops_cons_iff, beq_eq_false_iff_ne]
  rintro rfl
  exact absurd first (by decide)

/-- What stands behind the whole part or the fraction of a number begins with none of the class. -/
theorem Numeral.IsWritten.stops_exponent (written : numeral.IsWritten)
    (stops : Stops spoilsNumber following) {test : CodePoint → Bool}
    (fewer : ∀ point, test point = true → spoilsNumber point = true)
    (letters : test letterE = false ∧ test 0x45 = false) :
    Stops test (numeral.mark ++ (numeral.exponent ++ following)) := by
  rcases written.exponent with ⟨mark, exponent⟩ | ⟨listed, -, -⟩
  · rw [mark, exponent]
    exact stops.mono fewer
  · simp only [exponentMarks, List.mem_cons, List.not_mem_nil, or_false] at listed
    rcases listed with same | same | same | same | same | same <;>
      rw [same] <;> exact stops_cons_iff.mpr (by simp only [letters])

theorem spoilsNumber_of_digit (point : CodePoint) (digit : isDigit point = true) :
    spoilsNumber point = true := by
  simp [spoilsNumber, continuesIdentifier, digit]

/-- A number is read up to what may follow it. -/
theorem numeral_of_written (written : numeral.IsWritten) (stops : Stops spoilsNumber following) :
    Layout.numeral (numeral.text ++ following) = (numeral, following) := by
  have points : ∀ point, (point == fullStop) = true → spoilsNumber point = true := by
    intro point same
    rw [eq_of_beq same]
    rfl
  have letters : ∀ point, (point == letterE || point == 0x45) = true →
      spoilsNumber point = true := by
    intro point same
    rcases Bool.or_eq_true _ _ ▸ same with same | same <;> rw [eq_of_beq same] <;> rfl
  have behindFraction := written.stops_exponent stops spoilsNumber_of_digit ⟨rfl, rfl⟩
  have behindWhole := written.stops_exponent stops points ⟨rfl, rfl⟩
  rw [numeral_text]
  apply numeral_of_parts
  · exact written.signs _
  · apply digits_of_stops written.whole
    split
    · exact behindFraction
    · exact stops_cons_iff.mpr rfl
  · split
    · rename_i empty
      rw [List.isEmpty_iff.mp empty]
      exact fractionPart_none behindWhole
    · rename_i nonempty
      exact fractionPart_digits (by simpa using nonempty) written.fraction behindFraction
  · rcases written.exponent with ⟨mark, exponent⟩ | ⟨listed, nonempty, inside⟩
    · rw [mark, exponent]
      exact exponentPart_none (stops.mono letters)
    · exact exponentPart_digits listed nonempty inside (stops.mono spoilsNumber_of_digit)


/-- Digits that are read are digits, and nothing is lost of the source. -/
theorem digits_text {source whole behind : Text} (read : digits source = (whole, behind)) :
    whole ++ behind = source ∧ ∀ point ∈ whole, isDigit point = true := by
  cases read
  exact ⟨List.takeWhile_append_dropWhile, List.all_eq_true.mp List.all_takeWhile⟩

theorem digits_ne_nil {digit : CodePoint} {rest whole behind : Text} (first : isDigit digit = true)
    (read : digits (digit :: rest) = (whole, behind)) : whole ≠ [] := by
  cases read
  simp [first]

/-- A fraction that is read is a full stop and digits, and nothing is lost of the source. -/
theorem fractionPart_text {source fraction behind : Text}
    (read : fractionPart source = (fraction, behind)) :
    (if fraction.isEmpty then [] else fullStop :: fraction) ++ behind = source ∧
      ∀ point ∈ fraction, isDigit point = true := by
  unfold fractionPart at read
  split at read
  · rename_i digit rest
    split at read
    · rename_i first
      obtain ⟨same, inside⟩ := digits_text read
      refine ⟨?_, inside⟩
      rw [if_neg (by simpa using digits_ne_nil first read), List.cons_append, same]
    · cases read
      exact ⟨rfl, fun _ member => by cases member⟩
  · cases read
    exact ⟨rfl, fun _ member => by cases member⟩

/-- An exponent that is read has one of the marks and digits, or is not there, and nothing is lost. -/
theorem exponentPart_text {source mark exponent behind : Text}
    (read : exponentPart source = (mark, exponent, behind)) :
    mark ++ (exponent ++ behind) = source ∧ ((mark = [] ∧ exponent = []) ∨
      (mark ∈ exponentMarks ∧ exponent ≠ [] ∧ ∀ point ∈ exponent, isDigit point = true)) := by
  unfold exponentPart at read
  split at read
  · rename_i letter next rest
    split_ifs at read with letters first signed
    · rcases parts : digits (next :: rest) with ⟨shown, remaining⟩
      obtain ⟨same, inside⟩ := digits_text parts
      rw [parts] at read
      cases read
      refine ⟨by rw [same]; rfl, .inr ⟨?_, digits_ne_nil first parts, inside⟩⟩
      rcases (by simpa using letters) with rfl | rfl <;> decide
    · rcases parts : digits rest with ⟨shown, remaining⟩
      obtain ⟨same, inside⟩ := digits_text parts
      obtain ⟨signs, first⟩ := Bool.and_eq_true _ _ ▸ signed
      have nonempty : shown ≠ [] := by
        cases rest with
        | nil => cases first
        | cons digit behind => exact digits_ne_nil first parts
      rw [parts] at read
      cases read
      refine ⟨by rw [same]; rfl, .inr ⟨?_, nonempty, inside⟩⟩
      rcases (by simpa using letters) with rfl | rfl <;>
        rcases (by simpa using signs) with rfl | rfl <;> decide
    all_goals cases read; exact ⟨rfl, .inl ⟨rfl, rfl⟩⟩
  · cases read
    exact ⟨rfl, .inl ⟨rfl, rfl⟩⟩

/-- What is read as a number is written as one. -/
theorem written_of_numeral {first : CodePoint} {rest : Text}
    (starts : (isDigit first || (first = hyphen && rest.head?.any isDigit)) = true) :
    (Layout.numeral (first :: rest)).1.IsWritten ∧
      (Layout.numeral (first :: rest)).1.text ++ (Layout.numeral (first :: rest)).2 =
        first :: rest := by
  obtain ⟨sign, digit, behind, signs, same, first⟩ : ∃ sign digit behind,
      (sign = [] ∧ Stops (· == hyphen) (digit :: behind) ∨ sign = [hyphen]) ∧
        first :: rest = sign ++ digit :: behind ∧ isDigit digit = true := by
    by_cases signed : first = hyphen
    · subst signed
      cases rest with
      | nil => exact absurd starts (by decide)
      | cons digit behind => exact ⟨[hyphen], digit, behind, .inr rfl, rfl, starts⟩
    · exact ⟨[], first, rest, .inl ⟨rfl, stops_cons_iff.mpr (by simp [signed])⟩, rfl,
        by simpa [signed] using starts⟩
  rcases wholes : digits (digit :: behind) with ⟨whole, behindWhole⟩
  rcases fractions : fractionPart behindWhole with ⟨fraction, behindFraction⟩
  rcases exponents : exponentPart behindFraction with ⟨mark, exponent, remaining⟩
  obtain ⟨wholeText, wholeDigits⟩ := digits_text wholes
  obtain ⟨fractionText, fractionDigits⟩ := fractionPart_text fractions
  obtain ⟨exponentText, exponentDigits⟩ := exponentPart_text exponents
  rw [same, numeral_of_parts signs wholes fractions exponents]
  refine ⟨⟨signs.imp_left And.left, digits_ne_nil first wholes, wholeDigits, fractionDigits,
    exponentDigits⟩, ?_⟩
  rw [numeral_text, exponentText, fractionText, wholeText]

/-- A number is written with digits, signs, a point and the letter of an exponent. -/
theorem Numeral.IsWritten.mem_text {numeral : Numeral} (written : numeral.IsWritten) {point : CodePoint}
    (inside : point ∈ numeral.text) :
    isDigit point = true ∨ point ∈ [hyphen, plus, fullStop, letterE, 0x45] := by
  unfold Numeral.text at inside
  simp only [List.mem_append] at inside
  rcases inside with (((sign | whole) | fraction) | mark) | exponent
  · rcases written.sign with unsigned | signed
    · rw [unsigned] at sign
      cases sign
    · rw [signed, List.mem_singleton] at sign
      rw [sign]
      exact .inr (by decide)
  · exact .inl (written.whole point whole)
  · split at fraction
    · cases fraction
    · rcases List.mem_cons.mp fraction with rfl | digit
      · exact .inr (by decide)
      · exact .inl (written.fraction point digit)
  · rcases written.exponent with ⟨empty, -⟩ | ⟨listed, -⟩
    · rw [empty] at mark
      cases mark
    · have letters : ∀ mark ∈ exponentMarks, ∀ point ∈ mark,
          point ∈ [hyphen, plus, fullStop, letterE, 0x45] := by decide
      exact .inr (letters _ listed point mark)
  · rcases written.exponent with ⟨-, empty⟩ | ⟨-, -, digits⟩
    · rw [empty] at exponent
      cases exponent
    · exact .inl (digits point exponent)

/-- A number begins with a digit, or with a minus in front of one. -/
theorem Numeral.IsWritten.starts {numeral : Numeral} (written : numeral.IsWritten)
    (following : Text) :
    ∃ first rest, numeral.text = first :: rest ∧
      (isDigit first || (first = hyphen && (rest ++ following).head?.any isDigit)) = true := by
  obtain ⟨digit, rest, whole⟩ := List.exists_cons_of_ne_nil written.nonempty
  have first : isDigit digit = true := written.whole digit (by simp [whole])
  rcases written.sign with sign | sign
  · exact ⟨digit, _, by simp [Numeral.text, sign, whole]; rfl, by simp [first]⟩
  · exact ⟨hyphen, _, by simp [Numeral.text, sign, whole]; rfl, by simp [first]⟩

/-! #### The longest number -/

theorem digits_append {body : Text} (inside : ∀ point ∈ body, isDigit point = true)
    (following : Text) : (digits (body ++ following)).2.length ≤ following.length := by
  rw [digits, List.dropWhile_append_of_pos inside]
  exact dropWhile_le isDigit following

theorem fractionPart_append {fraction : Text} (nonempty : fraction ≠ [])
    (inside : ∀ point ∈ fraction, isDigit point = true) (following : Text) :
    (fractionPart (fullStop :: (fraction ++ following))).2.length ≤ following.length := by
  cases fraction with
  | nil => contradiction
  | cons digit rest =>
    rw [List.cons_append, fractionPart]
    rw [if_pos (inside digit List.mem_cons_self), ← List.cons_append]
    exact digits_append inside following

theorem exponentPart_append {mark exponent : Text} (listed : mark ∈ exponentMarks)
    (nonempty : exponent ≠ []) (inside : ∀ point ∈ exponent, isDigit point = true)
    (following : Text) :
    (exponentPart (mark ++ (exponent ++ following))).2.2.length ≤ following.length := by
  have more : ∀ point ∈ exponent ++ following.takeWhile isDigit, isDigit point = true := by
    rintro point member
    rcases List.mem_append.mp member with member | member
    · exact inside point member
    · exact List.all_eq_true.mp List.all_takeWhile _ member
  have read := exponentPart_digits listed (by simp [nonempty]) more (stops_dropWhile isDigit following)
  rw [List.append_assoc, List.takeWhile_append_dropWhile] at read
  rw [read]
  exact dropWhile_le isDigit following

theorem numeral_rest {sign unsigned : Text}
    (signs : sign = [] ∧ Stops (· == hyphen) unsigned ∨ sign = [hyphen]) :
    (Layout.numeral (sign ++ unsigned)).2 =
      (exponentPart (fractionPart (digits unsigned).2).2).2.2 := by
  rcases wholes : digits unsigned with ⟨whole, behindWhole⟩
  rcases fractions : fractionPart behindWhole with ⟨fraction, behindFraction⟩
  rcases exponents : exponentPart behindFraction with ⟨mark, exponent, rest⟩
  rw [numeral_of_parts signs wholes fractions exponents]

/-- Scanning a number goes on at least as far as any number that stands there. -/
theorem numeral_append (written : numeral.IsWritten) (following : Text) :
    (Layout.numeral (numeral.text ++ following)).2.length ≤ following.length := by
  rw [numeral_text, numeral_rest (written.signs _)]
  rcases written.exponent with ⟨mark, exponent⟩ | ⟨listed, nonempty, inside⟩
  · rw [mark, exponent, List.nil_append, List.nil_append]
    refine Nat.le_trans (exponentPart_rest_le _) ?_
    split
    · -- the whole part is the last
      exact Nat.le_trans (fractionPart_rest_le _) (digits_append written.whole following)
    · rename_i nonempty
      rw [List.cons_append, digits_of_stops written.whole (stops_cons_iff.mpr rfl)]
      exact fractionPart_append (by simpa using nonempty) written.fraction following
  · have stops : Stops isDigit (numeral.mark ++ (numeral.exponent ++ following)) ∧
        Stops (· == fullStop) (numeral.mark ++ (numeral.exponent ++ following)) := by
      simp only [exponentMarks, List.mem_cons, List.not_mem_nil, or_false] at listed
      rcases listed with same | same | same | same | same | same <;> rw [same] <;>
        exact ⟨stops_cons_iff.mpr rfl, stops_cons_iff.mpr rfl⟩
    have behindFraction : (fractionPart (digits (numeral.whole ++
        ((if numeral.fraction.isEmpty then [] else fullStop :: numeral.fraction) ++
          (numeral.mark ++ (numeral.exponent ++ following))))).2).2 =
        numeral.mark ++ (numeral.exponent ++ following) := by
      split
      · rw [List.nil_append, digits_of_stops written.whole stops.1, fractionPart_none stops.2]
      · rename_i nonempty
        rw [List.cons_append, digits_of_stops written.whole (stops_cons_iff.mpr rfl),
          fractionPart_digits (by simpa using nonempty) written.fraction stops.1]
    rw [behindFraction]
    exact exponentPart_append listed nonempty inside following

/-- **The longest number** at the start of a source is the one that is scanned. -/
theorem numeral_longest {source : Text} (written : numeral.IsWritten)
    (starts : numeral.text <+: source) :
    numeral.text.length ≤ (Layout.numeral source).1.text.length := by
  obtain ⟨following, rfl⟩ := starts
  obtain ⟨first, rest, same, digit⟩ := written.starts following
  have read := (written_of_numeral digit).2
  rw [← List.cons_append, ← same] at read
  have whole := congrArg List.length read
  have behind := numeral_append written following
  rw [List.length_append, List.length_append] at whole
  omega

/-! #### Values -/

/-- A numeral is an integer when it has neither fraction nor exponent. -/
theorem isInteger_iff : numeral.isInteger = true ↔ numeral.fraction = [] ∧ numeral.exponent = [] := by
  simp [Numeral.isInteger]

/-- The value of a number in the terms of its grammar. -/
theorem value_eq (numeral : Numeral) : numeral.value =
    if numeral.fraction = [] ∧ numeral.exponent = [] then
      if Integer.digitLimit < numeral.whole.length then .error (.numberTooLong numeral.text.length)
      else .ok (.integer (if numeral.sign = [] then (ofDecimalText numeral.whole : Int)
        else -(ofDecimalText numeral.whole : Int)))
    else
      if (Binary64.ofDecimal (numeral.sign ≠ []) (digitValues (numeral.whole ++ numeral.fraction))
          (numeral.power - numeral.fraction.length)).isFinite then
        .ok (.float (Binary64.ofDecimal (numeral.sign ≠ [])
          (digitValues (numeral.whole ++ numeral.fraction))
          (numeral.power - numeral.fraction.length)))
      else .error (.numberOutOfRange numeral.text) := by
  have power : (if numeral.mark.contains hyphen = true then -(ofDecimalText numeral.exponent : Int)
      else ofDecimalText numeral.exponent) = numeral.power := by
    simp [Numeral.power]
  have negative : (!numeral.sign.isEmpty) = decide (numeral.sign ≠ []) := by
    cases numeral.sign <;> rfl
  have signed : (if decide (numeral.sign ≠ []) = true then -(ofDecimalText numeral.whole : Int)
      else ofDecimalText numeral.whole) = (if numeral.sign = [] then
        (ofDecimalText numeral.whole : Int) else -(ofDecimalText numeral.whole : Int)) := by
    by_cases plain : numeral.sign = [] <;> simp [plain]
  unfold Numeral.value
  simp only [power, negative, signed, isInteger_iff, gt_iff_lt]

/-- The value of a number is what it denotes. -/
theorem value_eq_ok_iff {lexeme : Lexeme} :
    numeral.value = .ok lexeme ↔ numeral.Denotes lexeme := by
  rw [value_eq]
  constructor
  · intro found
    by_cases whole : numeral.fraction = [] ∧ numeral.exponent = []
    · rw [if_pos whole] at found
      by_cases long : Integer.digitLimit < numeral.whole.length
      · rw [if_pos long] at found
        cases found
      · rw [if_neg long] at found
        cases found
        exact .integer whole.1 whole.2 (Nat.not_lt.mp long)
    · rw [if_neg whole] at found
      split at found
      · rename_i finite
        cases found
        exact .float (Decidable.not_and_iff_not_or_not.mp whole) rfl finite
      · cases found
  · rintro (⟨fraction, exponent, short⟩ | ⟨marked, rfl, finite⟩)
    · rw [if_pos ⟨fraction, exponent⟩, if_neg (Nat.not_lt.mpr short)]
    · rw [if_neg (Decidable.not_and_iff_not_or_not.mpr marked), if_pos finite]

end Numbers

end BlockPage.Layout
