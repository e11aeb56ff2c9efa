/-
**Writing layouts from loose values.**

Blocks whose parts were never checked are refused part by part while they are written.

* `writeLooseKey`, `writeLooseValue`: a key and a value of any kind; `writeValueUnder`: a value under
  such a key.
* `writePlacements`, `writeValues`: the written form of blocks, and of a sequence that should hold them;
  `writePlacements_checked`: checked blocks are written as a layout is.
* `quoteValue`, `readsAsIdentifier`: a sequence of any kind in place of a text.
-/

import BlockPage.Intake.Block
import BlockPage.Intake.Source
import BlockPage.Layout.Printing

namespace BlockPage.Intake

open Layout

/-- The refusal of a layout without a written form. -/
def refuseWriting (fault : WriteFault) : Problem :=
  { kind := .serialization, message := fault.message }

/-- A key of any kind. -/
def writeLooseKey : Value → Except WriteFault Text
  | .scalar (.text key) => .ok (writeKey key)
  | other => .error (.keyKind other.kindName)

/-- The value of an entry, of any kind. -/
def writeLooseValue (key : Text) : Value → Except WriteFault Text
  | .scalar value => writeScalar key value
  | other => .error (.unsupported key other.kindName)

/-- A value under a key of any kind, which is only looked at where the value is refused. -/
def writeValueUnder (key value : Value) : Except Problem Text :=
  match writeLooseValue [] value with
  | .ok text => .ok text
  | .error _ => do
    let key ← key.displayed
    (writeLooseValue key value).mapError refuseWriting

/-- An entry of any kind. -/
def writeLooseEntry (entry : Value × Value) : Except WriteFault Text := do
  let key ← writeLooseKey entry.1
  let value ← writeLooseValue (entry.1.text?.getD []) entry.2
  return Text.concat [key, ": ", value]

/-- The refusal of a type that is no identifier. -/
def refuseType (typeId : Value) : Problem :=
  match typeId.inspect with
  | some shown => refuseWriting (.notIdentifier shown)
  | none => Value.tooLongToWrite

/-- The entries of a configuration of any kind. What counts as false has none. -/
def looseEntries : Value → Except Problem Entries
  | .map entries => .ok entries
  | config => if config.isTruthy then .error (config.missingMethod "items") else .ok []

/-- A block of unchecked parts. -/
def writeLooseBlock (block : LooseBlock) : Except Problem Text := do
  let typeId ← (Placement.loose block).typeId
  match typeId.text?.filter isIdentifier with
  | none => .error (refuseType typeId)
  | some name =>
    let entries ← looseEntries block.config
    let written ← (entries.mapM writeLooseEntry).mapError refuseWriting
    return writeDeclaration name written

/-- A block, checked or not. -/
def writePlacement : Placement → Except Problem Text
  | .checked block => (writeBlock block).mapError refuseWriting
  | .loose block => writeLooseBlock block

/-- The written form of blocks, checked or not. -/
def writePlacements (placements : List Placement) : Except Problem Text := do
  let declarations ← placements.mapM writePlacement
  return wrap declarations

theorem mapM_writePlacement_checked (blocks : List Block) :
    (blocks.map Placement.checked).mapM writePlacement
      = (blocks.mapM writeBlock).mapError refuseWriting := by
  induction blocks with
  | nil => rfl
  | cons first rest ih =>
    simp only [List.map_cons, List.mapM_cons, ih, writePlacement]
    cases writeBlock first with
    | error fault => rfl
    | ok text => cases rest.mapM writeBlock <;> rfl

/-- Checked blocks are written as the layout that they are. -/
theorem writePlacements_checked (blocks : List Block) :
    writePlacements (blocks.map .checked) = (write blocks).mapError refuseWriting := by
  simp only [writePlacements, write, mapM_writePlacement_checked]
  cases blocks.mapM writeBlock <;> rfl

/-- The written form of a sequence of blocks. -/
def writeValues (value : Value) : Except Problem Text := do
  let placements ← (coerceBlocks value).mapError (·.within .serialization "Invalid block instance: ")
  writePlacements placements

/-! ### Sequences in place of texts -/

/-- An item between quotation marks: its written form, or the kind of a byte that has none. -/
def quoteItem (item : Value) : Except Problem (Text ⊕ Text) := do
  item.requireKey
  match item with
  | .scalar (.text [point]) => return .inl (quotePoint point)
  | .bytes [byte] =>
    return if byte < 0x20 || byte == CodePoint.delete then
      .inl (Text.ofString "\\u" ++ Text.hexadecimal 4 byte) else .inr item.kindName
  | .scalar (.text text) => .error (notPoint text.length)
  | .bytes content => .error (notPoint content.length)
  | other =>
    .error (.typeMismatch (Text.concat ["ord() expected string of length 1, but ", other.kindName,
      " found"]))
where
  notPoint (length : Nat) : Problem :=
    .typeMismatch (Text.concat ["ord() expected a character, but string of length ",
      Number.decimal length, " found"])

/-- A sequence as a string of the language. Every item must be a code point. -/
def quoteValue (value : Value) : Except Problem Text := do
  let items ← value.items
  let parts ← items.mapM quoteItem
  match parts.zipIdx.findSome? fun part => part.1.getRight?.map (part.2, ·) with
  | none => return Text.concat ([CodePoint.quotationMark] :: parts.filterMap Sum.getLeft?
      ++ [[CodePoint.quotationMark]])
  | some (index, kind) =>
    .error (.typeMismatch (Text.concat ["sequence item ", Number.decimal (index + 1),
      ": expected str instance, ", kind, " found"]))

/-- The item is a text between two letters, or the refusal to compare it with one. -/
def isBetween (first last : CodePoint) : Value → Except Problem Bool
  | .scalar (.text item) => .ok (Text.atMost [first] item && Text.atMost item [last])
  | other =>
    .error (.typeMismatch (Text.concat ["'<=' not supported between instances of 'str' and '",
      other.kindName, "'"]))

/-- An identifier may start with the item. -/
def startsWithItem (item : Value) : Except Problem Bool := do
  if item.isText [CodePoint.underscore] then return true
  else if ← isBetween 0x61 0x7A item then return true
  else isBetween 0x41 0x5A item

/-- The item may stand inside an identifier. -/
def continuesWithItem (item : Value) : Except Problem Bool := do
  if ← startsWithItem item then return true
  else if item.isText [CodePoint.hyphen] then return true
  else isBetween 0x30 0x39 item

/-- All items may stand inside an identifier. Items behind one that may not are not looked at. -/
def continueWithItems : List Value → Except Problem Bool
  | [] => .ok true
  | item :: rest => do if ← continuesWithItem item then continueWithItems rest else return false

/-- A value of any kind in place of an identifier. Only a text can be one; what is empty is none. A map
is asked for its item at zero, and nothing can be cut from it. -/
def readsAsIdentifier (value : Value) : Except Problem Bool :=
  match value with
  | .scalar (.text text) => .ok (isIdentifier text)
  | .list (first :: rest) => do
    if !(← startsWithItem first) then return false
    else if !(← continueWithItems rest) then return false
    else value.requireKey.map fun _ => true
  | .bytes (first :: _) => startsWithItem (.integer first)
  | .map (entry :: rest) => do
    let first ← itemAt (.map (entry :: rest)) 0
    if ← startsWithItem first then .error (.typeMismatch "unhashable type: 'slice'") else return false
  | other =>
    if other.isTruthy then
      .error (.typeMismatch (Text.concat ["'", other.kindName, "' object is not subscriptable"]))
    else .ok false

end BlockPage.Intake
