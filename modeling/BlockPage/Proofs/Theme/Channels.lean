/-
**Colours and their channels.**

Two hexadecimal digits stand for one channel. The short form of a colour has one digit for each, which
counts twice. Written back, a channel has two digits again, small ones, whatever integer it was before it
was put within its bounds. So every colour has one spelling that channels are written in, its long form
without capitals, which stands for the same channels.

* `pair`, `channel_pair`: the channel of two digits; `channelText_pair`: its written form.
* `exists_channelText`: the written form of any integer.
* `Denotes`: what the two forms of a colour stand for; `ofText_of_denotes`: that is what is read.
* `denotes_toText`: what written channels stand for.
* `isColour_iff`, `exists_ofText`: a colour stands for three bytes.
* `spell`, `respell`: the text of three channels, and a colour read and written again.
* `longForm`, `isLongForm`: the one spelling.
* `toText_of_denotes`: what is written for the channels of a colour; `Denotes.longForm`: that they are its
  own.
* `spelling_exact`: the spelling of all channels and of all colours.
-/

import BlockPage.Proofs.Traversal
import BlockPage.Theme.Basic
import BlockPage.Theme.Stylesheet

namespace BlockPage.Rgb

open CodePoint

/-! ### Digits -/

/-- All hexadecimal digits. -/
def hexDigits : List CodePoint := Text.ofString "0123456789abcdefABCDEF"

theorem mem_hexDigits {point : CodePoint} (digit : isHexDigit point = true) : point ∈ hexDigits := by
  have listed : ∀ point < 0x67, isHexDigit point = true → point ∈ hexDigits := by
    decide +kernel
  refine listed point ?_ digit
  simp only [isHexDigit, isDigit, Bool.or_eq_true, Bool.and_eq_true, decide_eq_true_eq] at digit
  rcases digit with (⟨_, most⟩ | ⟨_, most⟩) | ⟨_, most⟩ <;>
    exact Nat.lt_of_le_of_lt most (by decide)

/-- A hexadecimal digit that is no capital letter. -/
def isSmallDigit (point : CodePoint) : Bool := isDigit point || (0x61 ≤ point && point ≤ 0x66)

/-- The small digit with the given value. -/
def digitOf (value : Nat) : CodePoint := (Nat.digitChar value).toNat

theorem isHexDigit_of_isSmallDigit {point : CodePoint} (small : isSmallDigit point = true) :
    isHexDigit point = true := by
  rw [isSmallDigit] at small
  rw [isHexDigit, small]
  rfl

/-- Digits are written small and read back, by going through all of them. -/
theorem of_digitOf : ∀ value < 16, isSmallDigit (digitOf value) = true ∧ hexValue (digitOf value) = value := by
  decide

/-- A digit in its small form is the small digit of the same value. -/
theorem digitOf_hexValue {point : CodePoint} (digit : isHexDigit point = true) :
    hexValue point < 16 ∧ digitOf (hexValue point) = toLower point := by
  have table : ∀ point ∈ hexDigits, hexValue point < 16 ∧ digitOf (hexValue point) = toLower point := by
    decide
  exact table point (mem_hexDigits digit)

/-! ### Channels -/

/-- A channel of one byte. -/
def IsByte (value : Int) : Prop := 0 ≤ value ∧ value < 256

/-- The channel that two hexadecimal digits stand for. -/
def pair (high low : CodePoint) : Nat := 16 * hexValue high + hexValue low

/-- An integer within the bounds of a channel. -/
def clamp (value : Int) : Int := max 0 (min 255 value)

/-- A byte is written as two digits. -/
theorem hexadecimal_two {high low : Nat} (first : high < 16) (second : low < 16) :
    Text.hexadecimal 2 (16 * high + low) = [digitOf high, digitOf low] := by
  by_cases single : high = 0
  · rw [single, Nat.mul_zero, Nat.zero_add, Text.hexadecimal, Nat.toDigits_of_lt_base second]
    rfl
  · have digits : Nat.toDigits 16 (16 * high + low) = [Nat.digitChar high, Nat.digitChar low] := by
      rw [← Nat.toDigits_append_toDigits (by decide) (Nat.pos_of_ne_zero single) second,
        Nat.toDigits_of_lt_base first, Nat.toDigits_of_lt_base second]
      rfl
    rw [Text.hexadecimal, digits]
    rfl

/-- An integer within its bounds is written with two small digits. -/
theorem exists_channelText (value : Int) : ∃ high low, channelText value = [high, low] ∧
    isSmallDigit high = true ∧ isSmallDigit low = true ∧ pair high low = clamp value := by
  obtain ⟨byte, isByte, small⟩ : ∃ byte : Nat, (byte : Int) = clamp value ∧ byte < 256 :=
    ⟨(clamp value).toNat, by unfold clamp; omega, by unfold clamp; omega⟩
  obtain ⟨isHigh, high⟩ := of_digitOf (byte / 16) (by omega)
  obtain ⟨isLow, low⟩ := of_digitOf (byte % 16) (by omega)
  refine ⟨digitOf (byte / 16), digitOf (byte % 16), ?_, isHigh, isLow, ?_⟩
  · rw [← hexadecimal_two (by omega) (by omega), Nat.div_add_mod]
    show Text.hexadecimal 2 (clamp value).toNat = _
    rw [← isByte, Int.toNat_natCast]
  · rw [pair, high, low, Nat.div_add_mod, isByte]

section Pairs

variable {high low : CodePoint} (first : isHexDigit high = true) (second : isHexDigit low = true)
include first second

theorem isByte_pair : IsByte (pair high low) := by
  have upper := (digitOf_hexValue first).1
  have lower := (digitOf_hexValue second).1
  unfold IsByte pair
  omega

/-- Two digits are read as what they stand for. -/
theorem channel_pair : channel [high, low] = .ok (pair high low : Int) := by
  have table : ∀ high ∈ hexDigits, ∀ low ∈ hexDigits,
      Number.Integer.ofHexadecimal? [high, low] = some (pair high low : Int) := by
    decide +kernel
  rw [channel, table high (mem_hexDigits first) low (mem_hexDigits second)]

/-- Two digits that are read are written back in their small forms. -/
theorem channelText_pair : channelText (pair high low) = [toLower high, toLower low] := by
  obtain ⟨upper, sameUpper⟩ := digitOf_hexValue first
  obtain ⟨lower, sameLower⟩ := digitOf_hexValue second
  have within : (max 0 (min 255 (pair high low : Int))).toNat = pair high low := by
    unfold pair
    omega
  rw [channelText, within, pair, hexadecimal_two upper lower, sameUpper, sameLower]

end Pairs

/-! ### Colours -/

/-- What a colour stands for. In the short form each digit stands for two. -/
inductive Denotes : Text → Rgb → Prop
  | long {first second third fourth fifth sixth : CodePoint} :
      (∀ digit ∈ [first, second, third, fourth, fifth, sixth], isHexDigit digit = true) →
      Denotes [numberSign, first, second, third, fourth, fifth, sixth]
        ⟨pair first second, pair third fourth, pair fifth sixth⟩
  | short {red green blue : CodePoint} : (∀ digit ∈ [red, green, blue], isHexDigit digit = true) →
      Denotes [numberSign, red, green, blue] ⟨pair red red, pair green green, pair blue blue⟩

/-- The sign in front of the digits is dropped and nothing else. -/
theorem dropWhile_numberSign {written : Text}
    (hexadecimal : ∀ digit ∈ written, isHexDigit digit = true) :
    (numberSign :: written).dropWhile (· == numberSign) = written := by
  rw [List.dropWhile_cons_of_pos rfl]
  cases written with
  | nil => rfl
  | cons first rest =>
    refine List.dropWhile_cons_of_neg fun same => ?_
    have digit := hexadecimal first (.head _)
    rw [eq_of_beq same] at digit
    exact absurd digit (by decide)

/-- Six digits are read in pairs. -/
theorem ofText_of_digits {text : Text} {first second third fourth fifth sixth : CodePoint}
    (read : digits text = [first, second, third, fourth, fifth, sixth])
    (hexadecimal : ∀ digit ∈ [first, second, third, fourth, fifth, sixth], isHexDigit digit = true) :
    ofText text = .ok ⟨pair first second, pair third fourth, pair fifth sixth⟩ := by
  simp only [List.forall_mem_cons] at hexadecimal
  obtain ⟨first', second', third', fourth', fifth', sixth', -⟩ := hexadecimal
  simp only [ofText, read, List.take_succ_cons, List.take_zero, List.drop_succ_cons, List.drop_zero,
    channel_pair first' second', channel_pair third' fourth', channel_pair fifth' sixth']
  rfl

/-- A colour is read as what it stands for. -/
theorem ofText_of_denotes {text : Text} {rgb : Rgb} (denotes : Denotes text rgb) : ofText text = .ok rgb := by
  cases denotes with
  | long hexadecimal =>
    refine ofText_of_digits ?_ hexadecimal
    rw [digits, dropWhile_numberSign hexadecimal]
    rfl
  | short hexadecimal =>
    refine ofText_of_digits ?_ (by simpa using hexadecimal)
    rw [digits, dropWhile_numberSign hexadecimal]
    rfl

/-- What is written for channels stands for them within their bounds. -/
theorem denotes_toText (rgb : Rgb) : Denotes rgb.toText ⟨clamp rgb.red, clamp rgb.green, clamp rgb.blue⟩ := by
  obtain ⟨first, second, red, first', second', isRed⟩ := exists_channelText rgb.red
  obtain ⟨third, fourth, green, third', fourth', isGreen⟩ := exists_channelText rgb.green
  obtain ⟨fifth, sixth, blue, fifth', sixth', isBlue⟩ := exists_channelText rgb.blue
  rw [toText, red, green, blue, ← isRed, ← isGreen, ← isBlue]
  refine .long ?_
  simp only [List.forall_mem_cons]
  exact ⟨isHexDigit_of_isSmallDigit first', isHexDigit_of_isSmallDigit second',
    isHexDigit_of_isSmallDigit third', isHexDigit_of_isSmallDigit fourth',
    isHexDigit_of_isSmallDigit fifth', isHexDigit_of_isSmallDigit sixth', List.forall_mem_nil _⟩

/-- Colours are the texts that stand for something. -/
theorem isColour_iff {text : Text} : isColour text = true ↔ ∃ rgb, Denotes text rgb := by
  constructor
  · intro valid
    unfold isColour at valid
    split at valid
    · next written =>
      simp only [Bool.and_eq_true, Bool.or_eq_true, beq_iff_eq, List.all_eq_true] at valid
      obtain ⟨size, hexadecimal⟩ := valid
      match written, size, hexadecimal with
      | [_, _, _], .inl _, hexadecimal => exact ⟨_, .short hexadecimal⟩
      | [_, _, _, _, _, _], .inr _, hexadecimal => exact ⟨_, .long hexadecimal⟩
    · cases valid
  · rintro ⟨rgb, denotes⟩
    cases denotes with
    | long hexadecimal | short hexadecimal => exact List.all_eq_true.mpr hexadecimal

theorem Denotes.isByte {text : Text} {rgb : Rgb} (denotes : Denotes text rgb) :
    IsByte rgb.red ∧ IsByte rgb.green ∧ IsByte rgb.blue := by
  cases denotes with
  | long hexadecimal =>
    simp only [List.forall_mem_cons] at hexadecimal
    obtain ⟨first, second, third, fourth, fifth, sixth, -⟩ := hexadecimal
    exact ⟨isByte_pair first second, isByte_pair third fourth, isByte_pair fifth sixth⟩
  | short hexadecimal =>
    simp only [List.forall_mem_cons] at hexadecimal
    obtain ⟨red, green, blue, -⟩ := hexadecimal
    exact ⟨isByte_pair red red, isByte_pair green green, isByte_pair blue blue⟩

/-- A colour has three channels, all of them bytes. -/
theorem exists_ofText (colour : Colour) :
    ∃ rgb, ofText colour.text = .ok rgb ∧ IsByte rgb.red ∧ IsByte rgb.green ∧ IsByte rgb.blue := by
  obtain ⟨rgb, denotes⟩ := isColour_iff.mp colour.valid
  exact ⟨rgb, ofText_of_denotes denotes, denotes.isByte⟩

/-! ### Spellings -/

/-- Three channels, each rounded, as a colour. -/
def spell (red green blue : Value) : Except Problem Text := do
  let rgb ← round roundValue red green blue
  return rgb.toText

/-- The channels of a text as a colour. -/
def respell (text : Text) : Except Problem Text := do
  let rgb ← ofText text
  spell (.integer rgb.red) (.integer rgb.green) (.integer rgb.blue)

/-- The colour with two digits for each channel, without capitals. -/
def longForm : Text → Text
  | [] => []
  | sign :: digits =>
    sign :: (if digits.length = 3 then digits.flatMap fun digit => [digit, digit] else digits).map toLower

/-- A number sign followed by six hexadecimal digits, none of them a capital. -/
def isLongForm : Text → Bool
  | numberSign :: digits => digits.length == 6 && digits.all isSmallDigit
  | _ => false

theorem spell_integer (red green blue : Int) :
    spell (.integer red) (.integer green) (.integer blue) = .ok (toText ⟨red, green, blue⟩) := rfl

/-- **Three numbers are written in the long form, whatever they are**: those that are no bytes are clamped. -/
theorem isLongForm_toText (rgb : Rgb) : isLongForm rgb.toText = true := by
  obtain ⟨_, _, red, first, second, -⟩ := exists_channelText rgb.red
  obtain ⟨_, _, green, third, fourth, -⟩ := exists_channelText rgb.green
  obtain ⟨_, _, blue, fifth, sixth, -⟩ := exists_channelText rgb.blue
  rw [toText, red, green, blue]
  simp [isLongForm, first, second, third, fourth, fifth, sixth]

section Colours

variable {text : Text} {rgb : Rgb} (denotes : Denotes text rgb)
include denotes

/-- The channels of a colour are written in its long form. -/
theorem toText_of_denotes : rgb.toText = longForm text := by
  cases denotes with
  | long hexadecimal =>
    simp only [List.forall_mem_cons] at hexadecimal
    obtain ⟨first, second, third, fourth, fifth, sixth, -⟩ := hexadecimal
    rw [toText, channelText_pair first second, channelText_pair third fourth, channelText_pair fifth sixth]
    rfl
  | short hexadecimal =>
    simp only [List.forall_mem_cons] at hexadecimal
    obtain ⟨red, green, blue, -⟩ := hexadecimal
    rw [toText, channelText_pair red red, channelText_pair green green, channelText_pair blue blue]
    rfl

/-- The long form of a colour stands for the same. -/
theorem Denotes.longForm : Denotes (longForm text) rgb := by
  have within : ∀ {value}, IsByte value → clamp value = value := by
    intro value byte
    unfold clamp IsByte at *
    omega
  obtain ⟨red, green, blue⟩ := denotes.isByte
  have written := denotes_toText rgb
  rwa [within red, within green, within blue, toText_of_denotes denotes] at written

/-- Reading a colour and writing it gives its long form. -/
theorem respell_of_denotes : respell text = .ok (Rgb.longForm text) := by
  rw [respell, ofText_of_denotes denotes, ← toText_of_denotes denotes]
  rfl

end Colours

/-- **Spelling is exact.** Three integers of any size are spelled as a colour that is read as the same
channels, each of them within its bounds. Whatever is spelled is a number sign with six small digits. A
colour is spelled again in its long form, which stands for the same channels and is not changed any more. -/
theorem spelling_exact :
    (∀ red green blue : Int, ∃ text,
      spell (.integer red) (.integer green) (.integer blue) = .ok text ∧
        ofText text = .ok ⟨clamp red, clamp green, clamp blue⟩) ∧
    (∀ red green blue text, spell red green blue = .ok text → isLongForm text = true) ∧
    ∀ colour : Colour, respell colour.text = .ok (longForm colour.text) ∧
      respell (longForm colour.text) = .ok (longForm colour.text) ∧
      ∃ rgb, Denotes colour.text rgb ∧ Denotes (longForm colour.text) rgb ∧
        ofText colour.text = .ok rgb := by
  refine ⟨fun red green blue => ?_, fun red green blue text spelled => ?_, fun colour => ?_⟩
  · exact ⟨_, spell_integer red green blue, ofText_of_denotes (denotes_toText _)⟩
  · obtain ⟨rgb, _, same⟩ := bind_eq_ok_iff.mp spelled
    cases same
    exact isLongForm_toText rgb
  · obtain ⟨rgb, denotes⟩ := isColour_iff.mp colour.valid
    have again := respell_of_denotes denotes.longForm
    rw [← toText_of_denotes denotes.longForm, toText_of_denotes denotes] at again
    exact ⟨respell_of_denotes denotes, again, rgb, denotes, denotes.longForm, ofText_of_denotes denotes⟩

/-- A short colour with a capital. -/
def mixed : Colour := ⟨"#aBc", by decide⟩

theorem spelling_exact_mixed :
    ofText "#00ff0b" = .ok ⟨0, 255, 11⟩ ∧ isLongForm "#00ff0b" = true ∧
      respell mixed.text = .ok (Text.ofString "#aabbcc") := by
  obtain ⟨channels, small, colours⟩ := spelling_exact
  have same : spell (.integer (-5)) (.integer 300) (.integer 11) = .ok (Text.ofString "#00ff0b") := by
    rw [spell_integer]
    exact congrArg Except.ok (by decide)
  obtain ⟨text, spelled, read⟩ := channels (-5) 300 11
  rw [same] at spelled
  cases spelled
  refine ⟨read, small _ _ _ _ same, (colours mixed).1.trans ?_⟩
  exact congrArg Except.ok (by decide)

end BlockPage.Rgb
