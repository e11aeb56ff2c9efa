/-
**What library blocks read from a configuration.**

Each reading is a function of the values that it takes. Called by itself it may be given a value of any
kind where a block gives it a text or a number.

* `flag`: a value as a switch, for which some words mean off.
* `splitList`: a text as a list, its parts without blanks around them; `splitAt`: at a separator of any kind.
* `splitRecords`: a text as records of a fixed number of fields; `recordsOf`: of a number of any kind.
* `gridColumns`: a number of columns from two to four.
* `indentBy`: a text moved to the right.
-/

import BlockPage.Block.Definition
import BlockPage.Text.Parts
import BlockPage.Value.Conversion

namespace BlockPage.Library

/-- The words that mean off. -/
def offWords : List Text := ["", "0", "false", "no", "off", "none"]

/-- A value as a switch. -/
def flag : Value → Bool
  | .scalar (.text text) => !offWords.contains ((Text.strip text).map CodePoint.toLower)
  | value => value.isTruthy

/-- The text of a value cut at a separator, each part without blanks around it. -/
def splitList (value : Value) (separator : Text) : Except Problem (List Text) := do
  let text ← value.shown []
  if text.isEmpty then return []
  else if separator.isEmpty then .error (.badValue "empty separator")
  else return (Text.splitOn separator text).map Text.strip

/-- The first items of a list, or for a negative count all but so many at its end. -/
def firstItems {α : Type} (count : Int) (items : List α) : List α :=
  if count < 0 then items.take (items.length - count.natAbs) else items.take count.toNat

/-- A record cut at bars, filled up with empty fields to the given number or cut to it. -/
def splitRecord (fields : Int) (record : Text) : List Text :=
  let parts := (Text.splitOn [CodePoint.verticalBar] record).map Text.strip
  firstItems fields (parts ++ List.replicate (fields.toNat - parts.length) [])

/-- The text of a value as records between semicolons. -/
def splitRecords (value : Value) (fields : Int) : Except Problem (List (List Text)) := do
  let records ← splitList value [CodePoint.semicolon]
  return records.map (splitRecord fields)

/-- The numbers of columns that a grid may have. -/
def columnChoices : List Text := ["2", "3", "4"]

/-- The number of columns that a value asks for, three if it is no possible one. -/
def gridColumns (value : Value) : Except Problem Text := do
  let columns ← value.shown "3"
  return if columnChoices.contains columns then columns else "3"

/-! ### Reading entries -/

/-- A field of a record. -/
def field (record : List Text) (index : Nat) : Text := record.getD index []

/-- The text, or another one when it is empty. -/
def orElse (text fallback : Text) : Text := if text.isEmpty then fallback else text

/-- The text of an entry. -/
def entryText (entries : Entries) (key : Text) : Except Problem Text :=
  (Entries.value entries key).shown []

/-- A configuration as literal entries. -/
def configOf (entries : List (String × Scalar)) : Config :=
  OrderedMap.ofList (entries.map fun entry => (Text.ofString entry.1, entry.2))

/-- A configuration of texts as literal entries. -/
def textsOf (entries : List (String × String)) : Config :=
  configOf (entries.map fun entry => (entry.1, .text entry.2))

/-- The entries that a block renders: its own over the defaults of its type. -/
def effective (defaults : Config) (entries : Entries) : Entries :=
  Entries.overlay (Entries.ofConfig defaults) entries

/-- A template that reads a view of a configuration and writes it as markup. -/
def viewTemplate {α : Type} (defaults : Config) (read : Entries → Except Problem α)
    (markup : α → Text) : Template := fun entries =>
  .ofExcept ((read (effective defaults entries)).map markup)

/-- One map with another written over it. -/
def merged (below above : Value) : Except Problem Value := do
  let below ← below.mapping
  let above ← above.mapping
  return .map (Entries.overlay below above)

/-- Lines between newlines, as style sheets and scripts are written. -/
def sheet (lines : List String) : Text :=
  Text.concat ["\n", Text.join [CodePoint.newline] (lines.map Text.ofString), "\n"]

/-! ### Arguments of any kind -/

/-- The text of a value cut at a separator, or at blanks if that is absent. -/
def splitAt (value separator : Value) : Except Problem (List Text) := do
  let text ← value.shown []
  if text.isEmpty then return []
  else match separator with
    | .scalar (.text separator) => splitList (.text text) separator
    | .absent => return Text.words text
    | other => .error (.typeMismatch (Text.ofString "must be str or None, not " ++ other.kindName))

/-- A record of a number of fields, those that it lacks being empty. -/
def recordOf (fields : Value) (record : Text) : Except Problem (List Text) :=
  match fields with
  | .scalar (.integer count) => padded count
  | .scalar (.boolean value) => padded (if value then 1 else 0)
  | .scalar (.float _) => .error fields.notCount
  | other =>
    .error (.typeMismatch (Text.concat ["unsupported operand type(s) for -: '", other.kindName,
      "' and 'int'"]))
where
  /-- The record, unless it lacks more fields than can be made. -/
  padded (count : Int) : Except Problem (List Text) :=
    let parts := Text.splitOn [CodePoint.verticalBar] record
    (Value.repetitionOf (count - parts.length)).map fun _ => splitRecord count record

/-- The text of a value as records between semicolons. -/
def recordsOf (value fields : Value) : Except Problem (List (List Text)) := do
  let records ← splitList value [CodePoint.semicolon]
  records.mapM (recordOf fields)

/-- The lines of a text moved to the right. -/
def indentBy (value spaces : Value) : Except Problem Text := do
  let spaces ← spaces.repetition
  match value with
  | .scalar (.text text) => return Text.indent text spaces
  | .bytes _ => .error (.typeMismatch "a bytes-like object is required, not 'str'")
  | other => .error (other.missingMethod "split")

end BlockPage.Library
