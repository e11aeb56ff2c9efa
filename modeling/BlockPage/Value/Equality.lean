/-
**Equality of values, and maps with keys of any kind.**

Values are equal part by part: numbers and truth values by value, lists in order, maps in any order,
built values by their named parts. A NaN equals nothing. A value that may be changed later, or that
holds such a value, cannot be a key.

* `Value.equal`: equality of values.
* `Value.keyFault?`: the kind of the first part for which a value cannot be a key; `Value.requireKey`
  refuses such a value.
* `Entries`: the entries of such a map in order; `Entries.lookup?`, `Entries.insert`, `Entries.overlay`,
  `Entries.erase`: as of an ordered map, where equal keys are one key and the first of them stays.
-/

import BlockPage.Problem
import BlockPage.Value.Basic

namespace BlockPage.Value

/-! ### Values that hold nothing loose -/

/-- The value is a given scalar. -/
def isScalar (scalar : Scalar) : Value → Bool
  | .scalar other => scalar.equal other
  | _ => false

/-- The value is a given text. -/
def isText (text : Text) : Value → Bool
  | .scalar (.text other) => text == other
  | _ => false

/-- The value is a given text or nothing. -/
def isOption : Option Text → Value → Bool
  | none, absent => true
  | some text, value => value.isText text
  | _, _ => false

/-- The value is a map with the entries of a configuration. -/
def isConfig (config : Config) : Value → Bool
  | map entries =>
    config.size == entries.length && config.entries.all fun entry =>
      entries.any fun other => other.1.isText entry.1 && other.2.isScalar entry.2
  | _ => false

/-- The blocks have the same type, equal configurations and the same handle. -/
def equalBlocks (left right : Block) : Bool :=
  left.sameStructure right && left.instanceId == right.instanceId

/-- A checked block and one that was never checked have the same parts. -/
def equalParts (block : Block) (typeId : Option Value) (config instanceId : Value) : Bool :=
  typeId.any (isText block.typeId) && config.isConfig block.config
    && instanceId.isOption block.instanceId

/-! ### All values -/

mutual

/-- The values are equal. -/
def equal : Value → Value → Bool
  | absent, absent => true
  | scalar first, scalar second => first.equal second
  | bytes first, bytes second => first == second
  | list first, list second => equalItems first second
  | map first, map second => first.length == second.length && within first second
  | field name value, field name' value' => name == name' && equal value value'
  | block first, block second => equalBlocks first second
  | block first, looseBlock typeId config instanceId => equalParts first typeId config instanceId
  | looseBlock typeId config instanceId, block second => equalParts second typeId config instanceId
  | looseBlock typeId config instanceId, looseBlock typeId' config' instanceId' =>
    equalTypes typeId typeId' && equal config config' && equal instanceId instanceId'
  | theme first, theme second => first == second
  | pageSettings first extras, pageSettings second extras' =>
    first == second && extras.length == extras'.length && extrasWithin extras extras'
  | _, _ => false

/-- The types are equal, or both are missing. -/
def equalTypes : Option Value → Option Value → Bool
  | none, none => true
  | some first, some second => equal first second
  | _, _ => false

/-- The items are equal in order. -/
def equalItems : List Value → List Value → Bool
  | [], [] => true
  | first :: rest, second :: others => equal first second && equalItems rest others
  | _, _ => false

/-- Every entry is equal to one of some others. -/
def within : List (Value × Value) → List (Value × Value) → Bool
  | [], _ => true
  | (key, value) :: rest, others =>
    (others.any fun other => equal key other.1 && equal value other.2) && within rest others

/-- Every named value is equal to one of some others. -/
def extrasWithin : List (Text × Value) → List (Text × Value) → Bool
  | [], _ => true
  | (name, value) :: rest, others =>
    (others.any fun other => name == other.1 && equal value other.2) && extrasWithin rest others

end

instance : BEq Value := ⟨equal⟩

/-! ### Keys -/

mutual

/-- The kind of the first part for which a value cannot be a key. -/
def keyFault? : Value → Option Text
  | list _ => some "list"
  | map _ => some "dict"
  | block _ => some "dict"
  | field _ value => keyFault? value
  | looseBlock typeId config instanceId =>
    (typeFault? typeId).or ((keyFault? config).or (keyFault? instanceId))
  | _ => none

/-- The same for a type, which may be missing. -/
def typeFault? : Option Value → Option Text
  | none => none
  | some typeId => keyFault? typeId

end

/-- The refusal of a value that cannot be a key. -/
def requireKey (value : Value) : Except Problem Unit :=
  match value.keyFault? with
  | none => .ok ()
  | some kind => .error (.typeMismatch (Text.concat ["unhashable type: '", kind, "'"]))

end BlockPage.Value

/-! ### Maps -/

namespace BlockPage

/-- Entries of a map in order. -/
abbrev Entries := List (Value × Value)

namespace Entries

/-- The value of a key. -/
def lookup? (entries : Entries) (key : Value) : Option Value :=
  (List.find? (fun entry => entry.1.equal key) entries).map Prod.snd

/-- The value of a key that is a text. -/
def get? (entries : Entries) (key : Text) : Option Value := lookup? entries (Value.text key)

/-- Binds a key: in its place when it is present, at the end otherwise. -/
def insert (entries : Entries) (key value : Value) : Entries :=
  if entries.any fun entry => entry.1.equal key then
    entries.map fun entry => if entry.1.equal key then (entry.1, value) else entry
  else entries ++ [(key, value)]

/-- Pairs as entries, of which later ones win and earlier ones give the place. -/
def ofPairs (pairs : List (Value × Value)) : Entries :=
  pairs.foldl (fun entries pair => insert entries pair.1 pair.2) []

/-- The first entries with the second written over them. -/
def overlay (below above : Entries) : Entries :=
  above.foldl (fun entries pair => insert entries pair.1 pair.2) below

/-- The entries without those of a key that is a text. -/
def erase (entries : Entries) (key : Text) : Entries :=
  entries.filter fun entry => !entry.1.equal (Value.text key)

/-- The entries of a configuration. -/
def ofConfig (config : Config) : Entries :=
  config.entries.map fun entry => (Value.text entry.1, Value.scalar entry.2)

/-- Named values as entries. -/
def ofFields (fields : List (Text × Value)) : Entries :=
  fields.map fun field => (Value.text field.1, field.2)

/-- The value of a key that is a text, absent when there is none. -/
def value (entries : Entries) (key : Text) : Value := (get? entries key).getD .absent

end Entries

end BlockPage
