/-
**Writing a layout.**

A list of blocks has one written form: one line per block inside a wrapper, every entry with its value,
texts between quotation marks with everything below the space escaped.

* `quote`: a text as a string of the language; `writeKey`, `writeScalar`, `writeBlock`: the parts.
* `WriteFault`: the blocks that have no written form.
* `write`: the written form of a layout.
-/

import BlockPage.Block.Basic
import BlockPage.Layout.Lexeme
import BlockPage.Layout.Reading
import BlockPage.Number.Binary64.Decimal
import BlockPage.Text.Quoted

namespace BlockPage.Layout

open CodePoint Number

/-- Why a layout has no written form. -/
inductive WriteFault where
  | notIdentifier (shown : Text)
  | keyKind (found : Text)
  | integerTooLong (key : Text)
  | notFinite (key : Text) (value : Binary64)
  | unsupported (key found : Text)
  deriving DecidableEq, Repr

/-- The wording of a fault. -/
def WriteFault.message : WriteFault → Text
  | notIdentifier shown => Text.concat ["Block type ", shown, " is not a valid DSL identifier"]
  | keyKind found => Text.ofString "Configuration key must be str, got " ++ found
  | integerTooLong key => Text.concat ["Integer value for '", key, "' is too large to serialize"]
  | notFinite key value =>
    Text.concat ["Value for '", key, "' is not a finite number: ", value.text]
  | unsupported key found =>
    Text.concat ["Value for '", key, "' has unsupported type ", found,
      "; expected str, int, float or bool"]

/-- A code point inside a string. -/
def quotePoint (point : CodePoint) : Text :=
  if point = backslash then "\\\\"
  else if point = quotationMark then "\\\""
  else if point = newline then "\\n"
  else if point = carriageReturn then "\\r"
  else if point = tab then "\\t"
  else if point = null then "\\0"
  else if point < 0x20 || point = delete then Text.ofString "\\u" ++ Text.hexadecimal 4 point
  else [point]

/-- A text as a string. -/
def quote (text : Text) : Text := quotationMark :: text.flatMap quotePoint ++ [quotationMark]

/-- A key: itself when it reads as an identifier, a string otherwise. -/
def writeKey (key : Text) : Text := if isIdentifier key then key else quote key

/-- The value of an entry. -/
def writeScalar (key : Text) : Scalar → Except WriteFault Text
  | .boolean value => .ok (if value then "true" else "false")
  | .integer value =>
    match Integer.text? value with
    | some text => .ok text
    | none => .error (.integerTooLong key)
  | .float value => if value.isFinite then .ok value.text else .error (.notFinite key value)
  | .text value => .ok (quote value)

/-- An entry. -/
def writeEntry (entry : Text × Scalar) : Except WriteFault Text := do
  let value ← writeScalar entry.1 entry.2
  return Text.concat [writeKey entry.1, ": ", value]

/-- A block with its entries written. -/
def writeDeclaration (typeId : Text) (entries : List Text) : Text :=
  Text.concat [typeId, "(", Text.join ", " entries, ")"]

/-- A block. -/
def writeBlock (block : Block) : Except WriteFault Text :=
  if isIdentifier block.typeId then do
    let entries ← block.config.entries.mapM writeEntry
    return writeDeclaration block.typeId entries
  else .error (.notIdentifier (Text.quoted block.typeId))

/-- The space before a block. -/
def margin : Text := "  "

/-- Declarations inside a wrapper. -/
def wrap (declarations : List Text) : Text :=
  if declarations.isEmpty then
    Text.concat [layoutWord, " \x7b\n", margin, "// Add blocks here\n\x7d"]
  else
    Text.concat [layoutWord, " \x7b\n",
      Text.join [newline] (declarations.map (margin ++ ·)), "\n\x7d"]

/-- A layout. -/
def write (blocks : List Block) : Except WriteFault Text := do
  let declarations ← blocks.mapM writeBlock
  return wrap declarations

end BlockPage.Layout
