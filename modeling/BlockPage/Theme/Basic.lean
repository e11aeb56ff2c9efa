/-
**Themes and settings of pages.**

A theme picks two colours, a background and a text colour for light pages, and four settings with fixed
choices. The two colours are in hexadecimal notation, which their type guarantees. What else a caller may
say about one page are its settings.

* `Colour`: a number sign and three or six hexadecimal digits.
* `Theme.Mode`, `Theme.Radius`, `Theme.Font`: the choices with their words and back.
* `Theme`, `PageSettings`: their defaults are those of an empty description.
-/

import BlockPage.Text.Basic

namespace BlockPage

/-- A number sign followed by three or six hexadecimal digits. -/
def isColour : Text → Bool
  | CodePoint.numberSign :: digits =>
    (digits.length == 3 || digits.length == 6) && digits.all CodePoint.isHexDigit
  | _ => false

/-- A colour in hexadecimal notation. -/
structure Colour where
  text : Text
  valid : isColour text = true
  deriving DecidableEq

namespace Colour

/-- The colour that a text notates. -/
def ofText? (text : Text) : Option Colour :=
  if valid : isColour text = true then some ⟨text, valid⟩ else none

/-- The default primary colour, a blue. -/
def blue : Colour := ⟨"#2563EB", by decide⟩

/-- The default secondary colour, a violet. -/
def violet : Colour := ⟨"#7C3AED", by decide⟩

end Colour

namespace Theme

/-- Light or dark pages. -/
inductive Mode where
  | light
  | dark
  deriving DecidableEq, Repr

/-- The size of rounded corners. -/
inductive Radius where
  | small
  | medium
  | large
  | extraLarge
  deriving DecidableEq, Repr

/-- The family of fonts. -/
inductive Font where
  | system
  | mono
  | serif
  deriving DecidableEq, Repr

/-- The word for a mode. -/
def Mode.word : Mode → Text
  | light => "light"
  | dark => "dark"

/-- The word for a radius. -/
def Radius.word : Radius → Text
  | small => "sm"
  | medium => "md"
  | large => "lg"
  | extraLarge => "xl"

/-- The word for a family of fonts. -/
def Font.word : Font → Text
  | system => "system"
  | mono => "mono"
  | serif => "serif"

/-- All modes. -/
def Mode.all : List Mode := [.light, .dark]

/-- All radii. -/
def Radius.all : List Radius := [.small, .medium, .large, .extraLarge]

/-- All families of fonts. -/
def Font.all : List Font := [.system, .mono, .serif]

end Theme

/-- The look of a page. -/
structure Theme where
  primary : Colour := .blue
  secondary : Colour := .violet
  background : Text := "#F8FAFC"
  text : Text := "#0F172A"
  mode : Theme.Mode := .light
  radius : Theme.Radius := .medium
  shadow : Bool := true
  font : Theme.Font := .system
  deriving DecidableEq

/-- Settings of one page. -/
structure PageSettings where
  columns : Int := 3
  navbar : Text := "sticky"
  footer : Text := "corporate"
  animations : Bool := true
  maxWidth : Text := "1200px"
  spacing : Text := "comfortable"
  title : Option Text := none
  description : Option Text := none
  deriving DecidableEq

end BlockPage
