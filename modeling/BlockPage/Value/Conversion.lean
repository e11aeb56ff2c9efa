/-
**Values as sequences and as maps.**

* `Value.items`: the items of a value that can be gone through.
* `Value.toEntries`: a value as the entries of a map: a map, or a sequence of pairs.
* `Value.mapping`: the entries of a value that must be a map.
* `Value.size`: the number of items of a value that has one; `Value.repetition`: a value as the number
  of times that something is repeated.
-/

import BlockPage.Number.Integer
import BlockPage.Value.Equality

namespace BlockPage.Value

/-- The refusal to go through a value. -/
def notIterable (value : Value) : Problem :=
  .typeMismatch (Text.concat ["'", value.kindName, "' object is not iterable"])

/-- The items of a value that can be gone through: of a map its keys, of a text its code points, of a
built value its parts. -/
def items? : Value → Option (List Value)
  | absent => none
  | scalar (.text value) => some (value.map fun point => text [point])
  | scalar _ => none
  | bytes content => some (content.map fun (byte : Nat) => integer byte)
  | list items => some items
  | map entries => some (entries.map Prod.fst)
  | field name value => some [text name, value]
  | block placed => some ((blockFields placed).map fun part => field part.1 part.2)
  | looseBlock typeId config instanceId =>
    some ((looseFields typeId config instanceId).map fun part => field part.1 part.2)
  | theme look => some ((themeFields look).map fun part => field part.1 part.2)
  | pageSettings settings extras =>
    some ((pageFields settings ++ extras).map fun part => field part.1 part.2)

/-- The items of a value, or the refusal to go through it. -/
def items (value : Value) : Except Problem (List Value) :=
  match value.items? with
  | some items => .ok items
  | none => .error value.notIterable

/-- The refusal of page settings whose part of some name is asked to do something, when one of their
extra entries bears that name. -/
def callFault? (name : Text) : Value → Option Problem
  | pageSettings _ extras =>
    (extras.find? fun extra => extra.1 = name).map fun extra =>
      .typeMismatch (Text.concat ["'", extra.2.kindName, "' object is not callable"])
  | _ => none

/-- The refusal of a value whose part of some name is asked to do something. -/
def missingMethod (name : Text) (value : Value) : Problem :=
  (value.callFault? name).getD (.missingPart value.kindName name)

/-- The pair that an item of a sequence is, counted from zero. -/
def toPair (index : Nat) (item : Value) : Except Problem (Value × Value) :=
  match item.items? with
  | none =>
    .error (.typeMismatch (Text.concat ["cannot convert dictionary update sequence element #",
      Number.decimal index, " to a sequence"]))
  | some [key, value] => key.requireKey.map fun _ => (key, value)
  | some parts =>
    .error (.badValue (Text.concat ["dictionary update sequence element #", Number.decimal index,
      " has length ", Number.decimal parts.length, "; 2 is required"]))

/-- A value as entries: the entries of a map, or the pairs of a sequence. -/
def toEntries : Value → Except Problem Entries
  | map entries => .ok entries
  | value =>
    match value.callFault? "keys" with
    | some problem => .error problem
    | none => do
      let items ← value.items
      let pairs ← items.zipIdx.mapM fun item => toPair item.2 item.1
      return Entries.ofPairs pairs

/-- The entries of a value that must be a map. -/
def mapping : Value → Except Problem Entries
  | map entries => .ok entries
  | value =>
    .error ((value.callFault? "keys").getD
      (.typeMismatch (Text.concat ["'", value.kindName, "' object is not a mapping"])))

/-! ### Sizes and counts -/

/-- The number of items of a text, of bytes, of a list or of a map. -/
def size : Value → Except Problem Nat
  | scalar (.text value) => .ok value.length
  | bytes content => .ok content.length
  | list items => .ok items.length
  | map entries => .ok entries.length
  | field .. => .ok 2
  | other => .error (.typeMismatch (Text.concat ["object of type '", other.kindName, "' has no len()"]))

/-- The longest sequence that is made by repetition. -/
def longestRepetition : Nat := 68719476736

/-- How often something is repeated for an integer, never for a negative one. -/
def repetitionOf (number : Int) : Except Problem Nat :=
  if !Number.Integer.isWord number then
    .error (.overflow "cannot fit 'int' into an index-sized integer")
  else if longestRepetition < number then .error .outOfMemory
  else .ok number.toNat

/-- The refusal of a value as a number of repetitions. -/
def notCount (value : Value) : Problem :=
  .typeMismatch (Text.concat ["can't multiply sequence by non-int of type '", value.kindName, "'"])

/-- How often something is repeated for a value, which must be an integer. -/
def repetition : Value → Except Problem Nat
  | scalar (.integer number) => repetitionOf number
  | scalar (.boolean value) => repetitionOf (if value then 1 else 0)
  | other => .error other.notCount

end BlockPage.Value
