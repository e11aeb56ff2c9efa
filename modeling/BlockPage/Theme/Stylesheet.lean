/-
**Colours as channels, and the tokens of a theme.**

* `Rgb.ofText`: the channels of a colour in hexadecimal notation, and why a text has none.
* `Rgb.toText`: channels rounded and clamped, in hexadecimal notation.
* `Rgb.darken`, `Rgb.lighten`: a colour moved toward black or white by a percentage.
* `Theme.tokens`: the names that style sheets use and what a theme sets them to; `Theme.stylesheet`: the
  rule that sets them.
-/

import BlockPage.Number.Binary64.Arithmetic
import BlockPage.Text.Quoted
import BlockPage.Value.Conversion

namespace BlockPage

/-- Three channels. -/
structure Rgb where
  red : Int
  green : Int
  blue : Int
  deriving DecidableEq, Repr

namespace Rgb

/-- A channel from its hexadecimal numeral. -/
def channel (numeral : Text) : Except Problem Int :=
  match Number.Integer.ofHexadecimal? numeral with
  | some value => .ok value
  | none =>
    .error (.badValue
      (Text.ofString "invalid literal for int() with base 16: " ++ Text.quoted numeral))

/-- The digits of a colour, those of the short form doubled. -/
def digits (text : Text) : Text :=
  let digits := text.dropWhile (· == CodePoint.numberSign)
  if digits.length = 3 then digits.flatMap fun digit => [digit, digit] else digits

/-- The channels of a colour. -/
def ofText (text : Text) : Except Problem Rgb := do
  let digits := digits text
  let red ← channel (digits.take 2)
  let green ← channel ((digits.drop 2).take 2)
  let blue ← channel ((digits.drop 4).take 2)
  return ⟨red, green, blue⟩

/-- The text that a colour is given as. -/
def written : Value → Except Problem Text
  | .scalar (.text text) => .ok text
  | .bytes _ => .error (.typeMismatch "a bytes-like object is required, not 'str'")
  | other => .error (other.missingMethod "lstrip")

/-- A channel within its bounds, in two hexadecimal digits. -/
def channelText (value : Int) : Text := Text.hexadecimal 2 (max 0 (min 255 value)).toNat

/-- Channels in hexadecimal notation. -/
def toText (rgb : Rgb) : Text :=
  CodePoint.numberSign :: channelText rgb.red ++ channelText rgb.green ++ channelText rgb.blue

/-! ### Rounding -/

/-- The nearest integer, a tie to the even one. -/
def roundFloat (number : Binary64) : Except Problem Int :=
  match number.toNearestInteger with
  | some value => .ok value
  | none =>
    match number with
    | .nan => .error (.badValue "cannot convert float NaN to integer")
    | _ => .error (.overflow "cannot convert float infinity to integer")

/-- A value as a rounded channel. -/
def roundValue : Value → Except Problem Int
  | .scalar (.float number) => roundFloat number
  | .scalar (.integer value) => .ok value
  | .scalar (.boolean value) => .ok (if value then 1 else 0)
  | other =>
    .error (.typeMismatch
      (Text.concat ["type ", other.kindName, " doesn't define __round__ method"]))

/-- Three channels rounded one after the other. -/
def round {α : Type} (rounding : α → Except Problem Int) (red green blue : α) :
    Except Problem Rgb := do
  let red ← rounding red
  let green ← rounding green
  let blue ← rounding blue
  return ⟨red, green, blue⟩

/-! ### Shades -/

/-- A percentage as a fraction. -/
def fraction : Value → Except Problem Binary64
  | .scalar (.float percent) => .ok (percent.div (.ofInt 100))
  | .scalar (.text _) =>
    .error (.typeMismatch "unsupported operand type(s) for /: 'str' and 'int'")
  | .scalar value =>
    let percent := (value.integer?).getD 0
    let number := Binary64.ofRatio (percent < 0) percent.natAbs 100
    if number.isFinite then .ok number
    else .error (.overflow "integer division result too large for a float")
  | other =>
    .error (.typeMismatch
      (Text.concat ["unsupported operand type(s) for /: '", other.kindName, "' and 'int'"]))

/-- A channel scaled toward black. -/
def darkenChannel (fraction : Binary64) (channel : Int) : Binary64 :=
  (Binary64.ofInt channel).mul ((Binary64.ofInt 1).sub fraction)

/-- A channel moved toward white. -/
def lightenChannel (fraction : Binary64) (channel : Int) : Binary64 :=
  (Binary64.ofInt channel).add ((Binary64.ofInt (255 - channel)).mul fraction)

/-- A colour under a function of its channels. -/
def mapChannels (text : Text) (percent : Value) (shade : Binary64 → Int → Binary64) :
    Except Problem Text := do
  let rgb ← ofText text
  let part ← fraction percent
  let shaded ← round roundFloat (shade part rgb.red) (shade part rgb.green) (shade part rgb.blue)
  return shaded.toText

/-- The colour scaled toward black by a percentage. -/
def darken (text : Text) (percent : Value) : Except Problem Text :=
  mapChannels text percent darkenChannel

/-- The colour moved toward white by a percentage. -/
def lighten (text : Text) (percent : Value) : Except Problem Text :=
  mapChannels text percent lightenChannel

end Rgb

end BlockPage

/-! ### Tokens -/

namespace BlockPage.Theme

/-- The size of a radius. -/
def Radius.size : Radius → Text
  | small => "4px"
  | medium => "8px"
  | large => "16px"
  | extraLarge => "24px"

/-- The fonts of a family, the first available one to be taken. -/
def Font.stack : Font → Text
  | system => "system-ui, -apple-system, 'Segoe UI', sans-serif"
  | mono => "'JetBrains Mono', 'Fira Code', 'Cascadia Code', monospace"
  | serif => "Georgia, 'Times New Roman', serif"

/-- One of two values, by the mode. -/
def Mode.pick {α : Type} (mode : Mode) (light dark : α) : α :=
  match mode with
  | .light => light
  | .dark => dark

/-- A shade of a colour. A colour in hexadecimal notation has every shade. -/
def shade (colour : Colour) (shading : Text → Value → Except Problem Text) (percent : Nat) : Text :=
  ((shading colour.text (.integer percent)).toOption).getD colour.text

/-- The tokens in order. -/
def tokens (theme : Theme) : List (Text × Text) :=
  let pick (light dark : Text) : Text := theme.mode.pick light dark
  [("primary", theme.primary.text),
    ("primary-dark", shade theme.primary Rgb.darken 15),
    ("primary-light", shade theme.primary Rgb.lighten 45),
    ("accent", theme.secondary.text),
    ("radius", theme.radius.size),
    ("font-sans", theme.font.stack),
    ("bg", pick theme.background "#0F172A"),
    ("surface", pick "#FFFFFF" "#1E293B"),
    ("border", pick "#E2E8F0" "#334155"),
    ("text", pick theme.text "#F1F5F9"),
    ("text-2", pick "#64748B" "#94A3B8")]

/-- The line that sets a token. -/
def tokenLine (token : Text × Text) : Text := Text.concat ["  --", token.1, ": ", token.2, ";"]

/-- The rule that sets the tokens. -/
def stylesheet (theme : Theme) : Text :=
  Text.concat [":root \x7b\n", Text.join [CodePoint.newline] (theme.tokens.map tokenLine),
    "\n\x7d"]

end BlockPage.Theme
