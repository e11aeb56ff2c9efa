/-
**Themes and page settings from loose values.**

* `readTheme`, `readPageSettings`: the fields, leniently; unknown fields of a theme are ignored.
* `pageExtras`: the fields of page settings beyond their own.
* `coerceTheme`, `coercePageSettings`: as the operations on pages take them, defaults for an absent one.
-/

import BlockPage.Intake.Field
import BlockPage.Value.Conversion

namespace BlockPage.Intake

/-- A colour. -/
def readColour : Reader Colour := fun value =>
  (readTested .lenient isColour .patternMismatch value).andThen fun text =>
    match Colour.ofText? text with
    | some colour => .fits colour
    | none => .issue .patternMismatch

/-- A theme from its fields. -/
def readTheme (entries : Entries) : Checked Theme :=
  Theme.mk <$> optional entries "primary_color" .blue readColour
    <*> optional entries "secondary_color" .violet readColour
    <*> optional entries "bg_color" "#F8FAFC" (readText .lenient)
    <*> optional entries "text_color" "#0F172A" (readText .lenient)
    <*> optional entries "mode" .light (readChoice Theme.Mode.all Theme.Mode.word)
    <*> optional entries "radius" .medium (readChoice Theme.Radius.all Theme.Radius.word)
    <*> optional entries "shadow" true readBoolean
    <*> optional entries "font" .system (readChoice Theme.Font.all Theme.Font.word)

/-- The own fields of page settings. -/
def readPageFields (entries : Entries) : Checked PageSettings :=
  PageSettings.mk <$> optional entries "columns" 3 readInteger
    <*> optional entries "navbar" "sticky" (readText .lenient)
    <*> optional entries "footer" "corporate" (readText .lenient)
    <*> optional entries "animations" true readBoolean
    <*> optional entries "max_width" "1200px" (readText .lenient)
    <*> optional entries "spacing" "comfortable" (readText .lenient)
    <*> optional entries "title" none (readOption (readText .lenient))
    <*> optional entries "description" none (readOption (readText .lenient))

/-- The keys of entries, which must be texts where all entries are kept. -/
def readKeys (entries : Entries) : Checked Unit :=
  match entries.filter fun entry => entry.1.text?.isNone with
  | [] => .fits ()
  | others => .wrong (others.map fun entry => ⟨[keyStep entry.1], .invalidKey⟩)

/-- Page settings from their fields. -/
def readPageSettings (entries : Entries) : Checked PageSettings :=
  (fun settings _ => settings) <$> readPageFields entries <*> readKeys entries

/-- The names of the fields of page settings. -/
def pageFieldNames : List Text :=
  ["columns", "navbar", "footer", "animations", "max_width", "spacing", "title", "description"]

/-- The entries that are no fields of page settings. -/
def pageExtras (entries : Entries) : List (Text × Value) :=
  entries.filterMap fun entry =>
    match entry.1.text? with
    | some name => if pageFieldNames.contains name then none else some (name, entry.2)
    | none => none

/-- A theme as the operations on pages take it. -/
def coerceTheme : Value → Except Problem Theme
  | .absent => .ok {}
  | .theme look => .ok look
  | value => do
    let entries ← value.toEntries
    (readTheme entries).toExcept.mapError (·.within .precondition "Invalid theme: ")

/-- Page settings as the operations on pages take them. -/
def coercePageSettings : Value → Except Problem PageSettings
  | .absent => .ok {}
  | .pageSettings settings _ => .ok settings
  | value => do
    let entries ← value.toEntries
    (readPageSettings entries).toExcept.mapError
      (·.within .precondition "Invalid page settings: ")

end BlockPage.Intake
