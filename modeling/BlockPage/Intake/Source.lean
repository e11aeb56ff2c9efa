/-
**Sources and limits from loose values.**

* `exceeds`: whether a size is above a limit of any kind that can be compared; `checkSize`: the refusal
  of a value that is too large.
* `readSource`, `compileSource`: a source, which must be a text, and its blocks within a limit.
* `scanItems`: the end of a sequence that is scanned in place of a text.
-/

import BlockPage.Layout.Compile
import BlockPage.Value.Conversion
import BlockPage.Value.Inspection

namespace BlockPage.Intake

open Layout

/-! ### Sizes -/

/-- The size is above a limit. -/
def exceeds (size : Nat) : Value → Except Problem Bool
  | .scalar (.integer limit) => .ok (limit < size)
  | .scalar (.boolean limit) => .ok ((if limit then 1 else 0) < size)
  | .scalar (.float limit) => .ok (limit.isBelow size)
  | other =>
    .error (.typeMismatch (Text.concat ["'>' not supported between instances of 'int' and '",
      other.kindName, "'"]))

/-- A value of at most a given size, or its refusal under the name of what it is. -/
def checkSize (value limit subject : Value) : Except Problem Unit := do
  let size ← value.size
  if ← exceeds size limit then
    let subject ← subject.displayed
    let limit ← limit.displayed
    .error { kind := .tooLarge, message := lengthMessage subject size limit }

/-! ### Compiling -/

/-- The text of a source. -/
def readSource : Value → Except Problem Text
  | .scalar (.text source) => .ok source
  | other =>
    .error (.typeMismatch (Text.ofString "DSL source must be str, got " ++ other.kindName))

/-- The blocks of a source within a limit, if there is one, or its faults. -/
def compileSource (source limit : Value) : Except Problem Compilation := do
  let source ← readSource source
  match limit with
  | .absent => return compile source none
  | limit =>
    if ← exceeds source.length limit then
      let shown ← limit.displayed
      return .error [⟨.tooLong source.length shown, none⟩]
    else return compile source none

/-! ### Scanning what is no text -/

/-- The item at a place of a sequence. A map is asked for the place as a key. -/
def itemAt (value : Value) (index : Nat) : Except Problem Value :=
  let item := match value with
    | .map entries => Entries.lookup? entries (.integer index)
    | other => (other.items?.getD [])[index]?
  match item with
  | some item => .ok item
  | none => .error (.missingKey (Number.decimal index))

/-- The item is blank, which only texts and bytes can be. -/
def isBlankItem : Value → Except Problem Bool
  | .scalar (.text item) => .ok (!item.isEmpty && item.all Text.isBlank)
  | .bytes item => .ok (!item.isEmpty && item.all Number.Integer.isAsciiSpace)
  | other => .error (other.missingMethod "isspace")

/-- The position behind an item. -/
def behindItem (position : Position) (item : Value) : Position :=
  if item.isText [CodePoint.newline] then position.after CodePoint.newline
  else position.after CodePoint.space

/-- The position behind the items of a sequence, all of which must be blank. -/
def passItems (value : Value) (position : Position) : List Nat → Except Problem Position
  | [] => .ok position
  | index :: rest => do
    let item ← itemAt value index
    if ← isBlankItem item then passItems value (behindItem position item) rest
    else .error (value.missingMethod "startswith")

/-- What scanning gives for a sequence that is no text: no token, and its end. -/
def scanItems (value : Value) : Except Problem Scan := do
  let size ← value.size
  let finish ← passItems value .start (List.range size)
  return { tokens := [], finish, errors := [] }

/-- What scanning gives for a text or another sequence. -/
def scanValue : Value → Except Problem Scan
  | .scalar (.text source) => .ok (scan source)
  | other => scanItems other

end BlockPage.Intake
