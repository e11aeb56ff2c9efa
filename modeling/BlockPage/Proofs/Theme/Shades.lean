/-
**Every colour has every shade.**

A shade is computed in floating-point numbers, and rounding refuses the infinite ones. The channels of a
colour in hexadecimal notation are bytes, which is far from the largest number.

* `exists_mapChannels`: channels that stay bounded are rounded.
* `darken_eq_shade`, `lighten_eq_shade`: shades of up to the whole way are always there.
-/

import BlockPage.Proofs.Number.Bounds
import BlockPage.Proofs.Theme.Channels
import BlockPage.Proofs.Traversal
import BlockPage.Theme.Stylesheet

namespace BlockPage

open Binary64

namespace Rgb

/-! ### Shaded channels -/

/-- A number with a bound rounds to an integer: only infinities and NaN do not. -/
theorem exists_roundFloat {exponent : Nat} {number : Binary64} (below : IsBelow exponent number) :
    ∃ value, roundFloat number = .ok value := by
  obtain ⟨negative, place, -⟩ := below
  exact ⟨_, rfl⟩

/-- An integer percentage is a fraction unless that is infinite. -/
theorem fraction_integer (percent : Int) {number : Binary64}
    (nearest : ofRatio (percent < 0) percent.natAbs 100 = number) (finite : number.isFinite = true) :
    fraction (.integer percent) = .ok number := by
  have read : fraction (.integer percent) =
      if (ofRatio (percent < 0) percent.natAbs 100).isFinite then
        .ok (ofRatio (percent < 0) percent.natAbs 100)
      else .error (.overflow "integer division result too large for a float") := by
    rw [fraction.eq_def]
    rfl
  rw [read, nearest, if_pos finite]

/-- A percentage of up to the whole is a number. -/
theorem exists_fraction {percent : Nat} (part : percent ≤ 100) :
    ∃ number, fraction (.integer percent) = .ok number ∧ IsBelow 2 number := by
  have small : (percent : Int).natAbs < Nat.pow 2 1 * 100 := by
    show (percent : Int).natAbs < 200
    omega
  have below := isBelow_ofRatio ((percent : Int) < 0) (by decide) small (by decide)
  exact ⟨_, fraction_integer _ rfl below.isFinite, below⟩

theorem isBelow_byte {value : Int} (byte : IsByte value) : IsBelow 9 (ofInt value) :=
  isBelow_ofInt (show value.natAbs < 256 by unfold IsByte at byte; omega) (by decide)

/-- A darker channel is still far from overflow. -/
theorem isBelow_darkenChannel {part : Binary64} {channel : Int} (share : IsBelow 2 part)
    (byte : IsByte channel) : IsBelow 14 (darkenChannel part channel) := by
  have whole : IsBelow 2 (ofInt 1) := isBelow_ofInt (show Int.natAbs 1 < 2 by decide) (by decide)
  have rest : IsBelow 4 ((ofInt 1).sub part) := whole.sub share (by decide)
  exact (isBelow_byte byte).mul rest (by decide)

theorem isBelow_lightenChannel {part : Binary64} {channel : Int} (share : IsBelow 2 part)
    (byte : IsByte channel) : IsBelow 14 (lightenChannel part channel) := by
  have rest : IsByte (255 - channel) := by
    unfold IsByte at *
    omega
  have gap : IsBelow 12 ((ofInt (255 - channel)).mul part) := (isBelow_byte rest).mul share (by decide)
  exact ((isBelow_byte byte).mono (by decide)).add gap (by decide)

/-- **Shading a colour never fails**, whatever bounded arithmetic is done on its channels. -/
theorem exists_mapChannels (colour : Colour) {percent : Nat} (part : percent ≤ 100)
    {shade : Binary64 → Int → Binary64}
    (bounded : ∀ {part channel}, IsBelow 2 part → IsByte channel → IsBelow 14 (shade part channel)) :
    ∃ shaded, mapChannels colour.text (.integer percent) shade = .ok shaded := by
  obtain ⟨rgb, read, redByte, greenByte, blueByte⟩ := exists_ofText colour
  obtain ⟨share, isShare, below⟩ := exists_fraction part
  obtain ⟨red, isRed⟩ := exists_roundFloat (bounded below redByte)
  obtain ⟨green, isGreen⟩ := exists_roundFloat (bounded below greenByte)
  obtain ⟨blue, isBlue⟩ := exists_roundFloat (bounded below blueByte)
  have rounded : round roundFloat (shade share rgb.red) (shade share rgb.green) (shade share rgb.blue) =
      .ok ⟨red, green, blue⟩ := by
    rw [round, isRed, isGreen, isBlue]
    rfl
  refine ⟨toText ⟨red, green, blue⟩, ?_⟩
  unfold mapChannels
  refine bind_eq_ok_iff.mpr ⟨rgb, read, ?_⟩
  refine bind_eq_ok_iff.mpr ⟨share, isShare, ?_⟩
  exact bind_eq_ok_iff.mpr ⟨⟨red, green, blue⟩, rounded, rfl⟩

end Rgb

/-! ### Shades of a theme -/

namespace Theme

theorem eq_shade {colour : Colour} {shading : Text → Value → Except Problem Text} {percent : Nat}
    (computed : ∃ shaded, shading colour.text (.integer percent) = .ok shaded) :
    shading colour.text (.integer percent) = .ok (shade colour shading percent) := by
  obtain ⟨shaded, same⟩ := computed
  rw [shade, same]
  rfl

/-- The darker shade of a colour is the computed one. -/
theorem darken_eq_shade (colour : Colour) {percent : Nat} (part : percent ≤ 100) :
    Rgb.darken colour.text (.integer percent) = .ok (shade colour Rgb.darken percent) :=
  eq_shade (Rgb.exists_mapChannels colour part Rgb.isBelow_darkenChannel)

/-- The lighter shade of a colour is the computed one. -/
theorem lighten_eq_shade (colour : Colour) {percent : Nat} (part : percent ≤ 100) :
    Rgb.lighten colour.text (.integer percent) = .ok (shade colour Rgb.lighten percent) :=
  eq_shade (Rgb.exists_mapChannels colour part Rgb.isBelow_lightenChannel)

end Theme

end BlockPage
