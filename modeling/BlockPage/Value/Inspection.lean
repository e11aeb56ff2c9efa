/-
**Values in messages.**

* `Value.inspect`: a value as messages show it; an integer too long to write has no such form.
* `Value.display`: a value as text, which is the text itself where the value is one.
-/

import BlockPage.Number.Binary64.Decimal
import BlockPage.Problem
import BlockPage.Text.Quoted
import BlockPage.Value.Basic

namespace BlockPage.Value

/-- A scalar as messages show it. -/
def inspectScalar : Scalar → Option Text
  | .boolean value => some (if value then "True" else "False")
  | .integer value => Number.Integer.text? value
  | .float value => some value.text
  | .text value => some (Text.quoted value)

/-- A configuration as messages show it. -/
def inspectConfig (config : Config) : Option Text := do
  let entries ← config.entries.mapM fun entry => do
    let value ← inspectScalar entry.2
    return Text.concat [Text.quoted entry.1, ": ", value]
  return Text.concat ["\x7b", Text.join ", " entries, "\x7d"]

/-- A text or nothing as messages show it. -/
def inspectOption : Option Text → Text
  | none => "None"
  | some value => Text.quoted value

/-- Named parts as messages show them. -/
def inspectFields (fields : List (Text × Text)) (separator : Text) : Text :=
  Text.join separator (fields.map fun field => Text.concat [field.1, "=", field.2])

/-- The parts of a block as messages show them. -/
def inspectBlock (block : Block) (separator : Text) : Option Text := do
  let config ← inspectConfig block.config
  return inspectFields [("type_id", Text.quoted block.typeId), ("config", config),
    ("instance_id", inspectOption block.instanceId)] separator

/-- The parts of a theme as messages show them. -/
def inspectTheme (theme : Theme) (separator : Text) : Text :=
  inspectFields [("primary_color", Text.quoted theme.primary.text),
    ("secondary_color", Text.quoted theme.secondary.text),
    ("bg_color", Text.quoted theme.background), ("text_color", Text.quoted theme.text),
    ("mode", Text.quoted theme.mode.word), ("radius", Text.quoted theme.radius.word),
    ("shadow", if theme.shadow then "True" else "False"),
    ("font", Text.quoted theme.font.word)] separator

/-- The parts of the settings of a page as messages show them, without extras. -/
def inspectPage (settings : PageSettings) : Option (List (Text × Text)) := do
  let columns ← Number.Integer.text? settings.columns
  return [("columns", columns), ("navbar", Text.quoted settings.navbar),
    ("footer", Text.quoted settings.footer),
    ("animations", if settings.animations then "True" else "False"),
    ("max_width", Text.quoted settings.maxWidth), ("spacing", Text.quoted settings.spacing),
    ("title", inspectOption settings.title), ("description", inspectOption settings.description)]

mutual

/-- A value as messages show it, unless it holds an integer too long to write. -/
def inspect : Value → Option Text
  | absent => some "None"
  | scalar value => inspectScalar value
  | bytes content => some (Text.bytesQuoted content)
  | list items => do
    let shown ← inspectList items
    return Text.concat ["[", Text.join ", " shown, "]"]
  | map entries => do
    let shown ← inspectEntries entries
    return Text.concat ["\x7b", Text.join ", " shown, "\x7d"]
  | field name value => do
    let shown ← inspect value
    return Text.concat ["(", Text.quoted name, ", ", shown, ")"]
  | block placed => do
    let shown ← inspectBlock placed ", "
    return Text.concat ["BlockInstance(", shown, ")"]
  | looseBlock typeId config instanceId => do
    let typeId ← inspectType typeId
    let config ← inspect config
    let instanceId ← inspect instanceId
    let own : List (Text × Text) := [("config", config), ("instance_id", instanceId)]
    return Text.concat ["BlockInstance(", inspectFields (typeId ++ own) ", ", ")"]
  | theme look => some (Text.concat ["Theme(", inspectTheme look ", ", ")"])
  | pageSettings settings extras => do
    let own ← inspectPage settings
    let extras ← inspectExtras extras
    return Text.concat ["PageSettings(", inspectFields (own ++ extras) ", ", ")"]

/-- The type of a block as messages show it, if there is one. -/
def inspectType : Option Value → Option (List (Text × Text))
  | none => some []
  | some typeId => do
    let shown ← inspect typeId
    return [("type_id", shown)]

/-- The items of a list as messages show them. -/
def inspectList : List Value → Option (List Text)
  | [] => some []
  | first :: rest => do
    let shown ← inspect first
    let others ← inspectList rest
    return shown :: others

/-- The entries of a map as messages show them. -/
def inspectEntries : List (Value × Value) → Option (List Text)
  | [] => some []
  | (key, value) :: rest => do
    let key ← inspect key
    let value ← inspect value
    let others ← inspectEntries rest
    return Text.concat [key, ": ", value] :: others

/-- Extra entries as messages show them. -/
def inspectExtras : List (Text × Value) → Option (List (Text × Text))
  | [] => some []
  | (name, value) :: rest => do
    let value ← inspect value
    let others ← inspectExtras rest
    return (name, value) :: others

end

/-- A value as text: a text itself, any other value as messages show it. -/
def display : Value → Option Text
  | scalar (.text text) => some text
  | block placed => inspectBlock placed " "
  | looseBlock typeId config instanceId => do
    let parts ← inspectExtras (looseFields typeId config instanceId)
    return inspectFields parts " "
  | theme look => some (inspectTheme look " ")
  | pageSettings settings extras => do
    let own ← inspectPage settings
    let extras ← inspectExtras extras
    return inspectFields (own ++ extras) " "
  | value => inspect value

/-- The refusal of an integer that is too long to write. -/
def tooLongToWrite : Problem := .badValue Number.Integer.limitMessage

/-- A value as text, or the refusal of an integer in it. -/
def displayed (value : Value) : Except Problem Text :=
  match value.display with
  | some shown => .ok shown
  | none => .error tooLongToWrite

end BlockPage.Value
