/-
**Loose values.**

What a caller may hand in before anything is known about it: absent, a scalar, bytes, a list, a map with
keys of any kind, or something this library has built. Templates return such values too.

* `Value`: the kinds of values; `Value.kindName`: what messages call the kind of a value.
* `Value.isTruthy`: whether a value counts as true.
* `Value.blockFields`, `Value.looseFields`, `Value.themeFields`, `Value.pageFields`: the named parts of
  what this library has built.
-/

import BlockPage.Block.Basic
import BlockPage.Theme.Basic

namespace BlockPage

/-- A value of which nothing is known beforehand. -/
inductive Value where
  | absent
  | scalar (scalar : Scalar)
  | bytes (bytes : List Nat)
  | list (items : List Value)
  | map (entries : List (Value × Value))
  /-- A named part of a built value, as a pair. -/
  | field (name : Text) (value : Value)
  | block (block : Block)
  /-- A block whose parts were never checked. Its type may even be missing. -/
  | looseBlock (typeId : Option Value) (config instanceId : Value)
  | theme (theme : Theme)
  /-- Settings of a page with the entries beyond its own. -/
  | pageSettings (settings : PageSettings) (extras : List (Text × Value))

namespace Value

instance : Inhabited Value := ⟨absent⟩

/-- A text as a value. -/
def text (text : Text) : Value := scalar (.text text)

/-- A truth value as a value. -/
def boolean (value : Bool) : Value := scalar (.boolean value)

/-- An integer as a value. -/
def integer (value : Int) : Value := scalar (.integer value)

/-- The text that a value is. -/
def text? : Value → Option Text
  | scalar (.text text) => some text
  | _ => none

/-- What messages call the kind of a value. -/
def kindName : Value → Text
  | absent => "NoneType"
  | scalar value => value.kindName
  | bytes _ => "bytes"
  | list _ => "list"
  | map _ => "dict"
  | field .. => "tuple"
  | block _ => "BlockInstance"
  | looseBlock .. => "BlockInstance"
  | theme _ => "Theme"
  | pageSettings .. => "PageSettings"

/-- The value counts as true. -/
def isTruthy : Value → Bool
  | absent => false
  | scalar value => value.isTruthy
  | bytes content => !content.isEmpty
  | list items => !items.isEmpty
  | map entries => !entries.isEmpty
  | _ => true

/-! ### The parts of built values -/

/-- A configuration as a map. -/
def ofConfig (config : Config) : Value :=
  map (config.entries.map fun entry => (text entry.1, scalar entry.2))

/-- A text or nothing. -/
def ofOption (value : Option Text) : Value :=
  match value with
  | none => absent
  | some value => text value

/-- The named parts of a block. -/
def blockFields (block : Block) : List (Text × Value) :=
  [("type_id", text block.typeId), ("config", ofConfig block.config),
    ("instance_id", ofOption block.instanceId)]

/-- The named parts of a block that was never checked. -/
def looseFields (typeId : Option Value) (config instanceId : Value) : List (Text × Value) :=
  let own : List (Text × Value) := [("config", config), ("instance_id", instanceId)]
  match typeId with
  | none => own
  | some typeId => (Text.ofString "type_id", typeId) :: own

/-- The named parts of a theme. -/
def themeFields (theme : Theme) : List (Text × Value) :=
  [("primary_color", text theme.primary.text), ("secondary_color", text theme.secondary.text),
    ("bg_color", text theme.background), ("text_color", text theme.text),
    ("mode", text theme.mode.word), ("radius", text theme.radius.word),
    ("shadow", boolean theme.shadow), ("font", text theme.font.word)]

/-- The named parts of the settings of a page. -/
def pageFields (settings : PageSettings) : List (Text × Value) :=
  [("columns", integer settings.columns), ("navbar", text settings.navbar),
    ("footer", text settings.footer), ("animations", boolean settings.animations),
    ("max_width", text settings.maxWidth), ("spacing", text settings.spacing),
    ("title", ofOption settings.title), ("description", ofOption settings.description)]

end Value

end BlockPage
