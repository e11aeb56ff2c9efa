/-
**Values that must fit a description.**

A loose value either fits, or everything wrong with it is listed in the order of the description. A strict
reading takes a value of the described kind only. A lenient one also takes what plainly means such a value:
an integer written as text, one and zero for truth values, bytes that hold a text. Around a number that is
written as text blanks may stand, and single underscores between its digits.

* `Checked`: the outcome. As an applicative it goes on after an issue, so that independent parts are
  all looked at. `Checked.under`: the issues of a part, seen from the whole; `Checked.each`: all items of a
  list.
* `literal?`: the plain form of an integer, an optional minus sign and digits without zeros before them.
* `readIntegerText`: the text as a literal once a plus sign, the zeros before it, a fraction of zeros and
  the underscores are gone; `readFloatText`: a floating-point number in decimal, an infinity or a NaN.
* `readText`, `readInteger`, `readBoolean`, `readScalar`, `readChoice`: the single values.
* `readList`, `readTuple`, `readOption`: values built from others.
* `required`, `optional`: a named field of a map.
-/

import BlockPage.Number.Binary64.Decimal
import BlockPage.Problem
import BlockPage.Value.Conversion
import BlockPage.Value.Inspection

namespace BlockPage.Intake

open CodePoint Number

/-! ### Outcomes -/

/-- A value that fits its description, or what is wrong with it. -/
inductive Checked (α : Type) where
  | fits (value : α)
  | wrong (issues : List Issue)

namespace Checked

variable {α β : Type}

/-- What is wrong, in order. -/
def issues : Checked α → List Issue
  | fits _ => []
  | wrong issues => issues

/-- One thing is wrong with the value itself. -/
def issue (kind : IssueKind) : Checked α := wrong [⟨[], kind⟩]

/-- A function and its argument, looked at independently. -/
def apply (function : Checked (α → β)) (argument : Unit → Checked α) : Checked β :=
  match function, argument () with
  | fits f, fits value => fits (f value)
  | wrong issues, other => wrong (issues ++ other.issues)
  | fits _, wrong issues => wrong issues

/-- The value under a function. -/
def map (f : α → β) : Checked α → Checked β
  | fits value => fits (f value)
  | wrong issues => wrong issues

instance : Applicative Checked where
  pure := fits
  map := map
  seq := apply

/-- A further look at a value that fits so far. -/
def andThen (checked : Checked α) (next : α → Checked β) : Checked β :=
  match checked with
  | fits value => next value
  | wrong issues => wrong issues

/-- The same, as a part of a larger value. -/
def under (step : PathStep) : Checked α → Checked α
  | fits value => fits value
  | wrong issues => wrong (issues.map fun issue => { issue with path := step :: issue.path })

/-- All items looked at, those that are wrong listed in order. -/
def each : List (Checked α) → Checked (List α)
  | [] => fits []
  | first :: rest => apply (map List.cons first) fun _ => each rest

/-- The value, or its refusal. -/
def toExcept : Checked α → Except Problem α
  | fits value => .ok value
  | wrong issues => .error (.invalid issues)

end Checked

/-! ### Numbers that texts write -/

/-- White space around a number that is written as text. -/
def isTrimmed (point : CodePoint) : Bool := Text.isBlank point && !(0x1C ≤ point && point ≤ 0x1F)

/-- The text without white space around it. -/
def trim (text : Text) : Text :=
  ((text.dropWhile isTrimmed).reverse.dropWhile isTrimmed).reverse

/-- Underscores stand between other code points only, one at a time. `between` says that one may come
next. -/
def isGrouped : Bool → Text → Bool
  | between, [] => between
  | between, point :: rest =>
    if point = underscore then between && isGrouped false rest else isGrouped true rest

/-- A numeral without the underscores between its other code points. One with more underscores stays as
it is. -/
def ungroup (numeral : Text) : Text :=
  if isGrouped false numeral then numeral.filter (· ≠ underscore) else numeral

/-! ### Integers -/

/-- What follows zeros and underscores, the last of which is given: a digit or a sign, or, together
with that last one, the point or the end. -/
def behindZeros? (last : CodePoint) : Text → Option Text
  | [] => some [last]
  | point :: rest =>
    if point = zero || point = underscore then behindZeros? point rest
    else if point = hyphen || isDigit point then some (point :: rest)
    else if point = fullStop then some (last :: point :: rest)
    else none

/-- A numeral without the zeros before it. It must start with a digit or a sign. -/
def dropZeros? : Text → Option Text
  | [] => none
  | point :: rest =>
    if point = zero then behindZeros? zero rest
    else if point = hyphen || isDigit point then some (point :: rest)
    else none

/-- A numeral without a fraction of zeros. -/
def dropFraction (numeral : Text) : Text :=
  let fraction := (numeral.dropWhile (· ≠ fullStop)).drop 1
  if !fraction.isEmpty && fraction.all (· == zero) then numeral.takeWhile (· ≠ fullStop) else numeral

/-- A numeral without a plus sign and without the zeros before it. -/
def dropStart? : Text → Option Text
  | plus :: hyphen :: _ => none
  | plus :: rest => dropZeros? rest
  | hyphen :: rest => (dropZeros? rest).map (hyphen :: ·)
  | numeral => dropZeros? numeral

/-- The digits of a literal: no zero stands before others, and there are at most 4300 of them. -/
def areDigits (digits : Text) : Bool :=
  !digits.isEmpty && digits.all isDigit && (digits.head? != some zero || digits.length == 1)
    && digits.length ≤ Integer.digitLimit

/-- The integer of a literal: its digits, behind a minus sign if it is negative. -/
def literal? : Text → Option Int
  | hyphen :: digits => if areDigits digits then some (-(ofDecimalText digits : Int)) else none
  | digits => if areDigits digits then some (ofDecimalText digits) else none

/-- The text starts as a literal with too many digits. -/
def isTooLong (text : Text) : Bool :=
  let unsigned := match text with
    | hyphen :: rest => rest
    | _ => text
  unsigned.head? != some zero && Integer.digitLimit < (unsigned.takeWhile isDigit).length

/-- The integer that a text writes. Only of a text that starts as a literal is it said that it is too
long. -/
def readIntegerText (text : Text) : Checked Int :=
  if isTooLong text then .issue .intParsingSize
  else match (dropStart? (trim text)).bind fun numeral => literal? (ungroup (dropFraction numeral)) with
    | some value => .fits value
    | none => .issue .intParsing

/-! ### Floating-point numbers -/

/-- The words for infinity. -/
def infinityWords : List Text := ["inf", "infinity"]

/-- The exponent of a numeral behind its mark. -/
def exponent? (text : Text) : Option Int :=
  let (negative, digits) := match text with
    | hyphen :: rest => (true, rest)
    | plus :: rest => (false, rest)
    | _ => (false, text)
  if !digits.isEmpty && digits.all isDigit then
    some (if negative then -(ofDecimalText digits : Int) else ofDecimalText digits)
  else none

/-- The number of a decimal without sign: digits, a point among them, a power of ten. -/
def unsignedFloat? (negative : Bool) (text : Text) : Option Binary64 :=
  let whole := text.takeWhile isDigit
  let rest := text.dropWhile isDigit
  let (fraction, rest) := match rest with
    | fullStop :: rest => (rest.takeWhile isDigit, rest.dropWhile isDigit)
    | _ => ([], rest)
  let power := match rest with
    | [] => some 0
    | mark :: rest => if toLower mark = letterE then exponent? rest else none
  if whole.isEmpty && fraction.isEmpty then none
  else power.map fun power =>
    Binary64.ofDecimal negative (digitValues (whole ++ fraction)) (power - fraction.length)

/-- The number that a text is in full. -/
def float? (text : Text) : Option Binary64 :=
  let (negative, unsigned) := match text with
    | hyphen :: rest => (true, rest)
    | plus :: rest => (false, rest)
    | _ => (false, text)
  let word := unsigned.map toLower
  if infinityWords.contains word then some (.infinity negative)
  else if word = Text.ofString "nan" then some .nan
  else unsignedFloat? negative unsigned

/-- The floating-point number that a text writes. -/
def readFloatText (text : Text) : Checked Binary64 :=
  match (float? (trim text)).or (float? (ungroup text)) with
  | some number => .fits number
  | none => .issue .floatParsing

/-! ### Descriptions -/

/-- A description: what a value is when it fits. -/
abbrev Reader (α : Type) := Value → Checked α

/-- Whether only values of the described kind are taken. -/
inductive Strictness where
  | strict
  | lenient
  deriving DecidableEq

/-! ### Texts -/

/-- The text that bytes hold. -/
def ofBytes? (bytes : List Nat) : Option Text :=
  (String.fromUTF8? ⟨(bytes.map UInt8.ofNat).toArray⟩).map Text.ofString

/-- A text. -/
def readText (strictness : Strictness) : Reader Text
  | .scalar (.text text) => .fits text
  | .bytes content =>
    match strictness, ofBytes? content with
    | .strict, _ => .issue .stringType
    | .lenient, some text => .fits text
    | .lenient, none => .issue .stringUnicode
  | _ => .issue .stringType

/-- A text without surrogates that passes a test. -/
def readTested (strictness : Strictness) (test : Text → Bool) (kind : IssueKind) : Reader Text :=
  fun value => (readText strictness value).andThen fun text =>
    if text.any Text.isSurrogate then .issue .stringUnicode
    else if test text then .fits text else .issue kind

/-- A text that is not empty. -/
def readNonEmpty (strictness : Strictness) : Reader Text :=
  readTested strictness (fun text => !text.isEmpty) .stringTooShort

/-- One of some choices, by its word. -/
def readChoice {α : Type} (choices : List α) (word : α → Text) : Reader α
  | .scalar (.text text) =>
    match choices.find? fun choice => word choice = text with
    | some choice => .fits choice
    | none => .issue .literal
  | _ => .issue .literal

/-! ### Integers -/

/-- The integer that a floating-point number is. -/
def readIntegerFloat (number : Binary64) : Checked Int :=
  if !number.isFinite then .issue .finiteNumber
  else match number.integer? with
    | none => .issue .intFromFloat
    | some value =>
      if Integer.isWord value && Integer.isWord (-value) then .fits value else .issue .intParsingSize

/-- An integer, read leniently. -/
def readInteger : Reader Int
  | .scalar (.boolean value) => .fits (if value then 1 else 0)
  | .scalar (.integer value) => .fits value
  | .scalar (.float number) => readIntegerFloat number
  | .scalar (.text text) =>
    if text.any Text.isSurrogate then .issue .stringUnicode else readIntegerText text
  | .bytes content =>
    match ofBytes? content with
    | some text => readIntegerText text
    | none => .issue .intParsing
  | _ => .issue .intType

/-- An integer above zero. -/
def readPositive : Reader Int := fun value =>
  (readInteger value).andThen fun number =>
    if 0 < number then .fits number else .issue .greaterThan

/-! ### Truth values -/

/-- The words for true. -/
def trueWords : List Text := ["1", "on", "t", "true", "y", "yes"]

/-- The words for false. -/
def falseWords : List Text := ["0", "off", "f", "false", "n", "no"]

/-- The truth value that a text writes, in either case. -/
def readBooleanText (text : Text) : Checked Bool :=
  let word := text.map toLower
  if trueWords.contains word then .fits true
  else if falseWords.contains word then .fits false
  else .issue .boolParsing

/-- The truth value that one or zero is. Integers beyond 64 bits are not looked at. -/
def readBooleanInteger (value : Int) : Checked Bool :=
  if value = 1 then .fits true
  else if value = 0 then .fits false
  else if Integer.isWord value then .issue .boolParsing
  else .issue .boolType

/-- A truth value, read leniently. -/
def readBoolean : Reader Bool
  | .scalar (.boolean value) => .fits value
  | .scalar (.integer value) => readBooleanInteger value
  | .scalar (.float number) =>
    match readIntegerFloat number with
    | .fits value => readBooleanInteger value
    | .wrong _ => .issue .boolType
  | .scalar (.text text) =>
    if text.any Text.isSurrogate then .issue .stringUnicode else readBooleanText text
  | .bytes content =>
    match ofBytes? content with
    | some text => readBooleanText text
    | none => .issue .boolParsing
  | _ => .issue .boolType

/-! ### Configurations -/

/-- What is wrong with a value that is no scalar, once for each kind that it might have been. -/
def scalarIssues (boolean integer float text : IssueKind) : List Issue :=
  [⟨[.name "bool"], boolean⟩, ⟨[.name "int"], integer⟩, ⟨[.name "float"], float⟩,
    ⟨[.name "str"], text⟩]

/-- A configuration value. Bytes are taken for the first kind that the text which they hold writes. -/
def readScalar (strictness : Strictness) : Reader Scalar
  | .scalar value => .fits value
  | .bytes content =>
    match strictness, ofBytes? content with
    | .strict, _ => .wrong (scalarIssues .boolType .intType .floatType .stringType)
    | .lenient, none => .wrong (scalarIssues .boolParsing .intParsing .floatParsing .stringUnicode)
    | .lenient, some text =>
      match readBooleanText text, readIntegerText text, readFloatText text with
      | .fits value, _, _ => .fits (.boolean value)
      | _, .fits value, _ => .fits (.integer value)
      | _, _, .fits value => .fits (.float value)
      | _, _, _ => .fits (.text text)
  | _ => .wrong (scalarIssues .boolType .intType .floatType .stringType)

/-- A key in a path: a text by its name, an integer as a place, any other key as messages show it. -/
def keyStep (key : Value) : PathStep :=
  match key with
  | .scalar (.text name) => .name name
  | .scalar (.boolean value) => .index (if value then 1 else 0)
  | .scalar (.integer value) => if Integer.isWord value then .index value else shown key
  | other => shown other
where
  shown (key : Value) : PathStep :=
    .name (key.inspect.getD (Text.concat ["<unprintable ", key.kindName, " object>"]))

/-- An entry of a configuration, the key looked at before the value. -/
def readEntry (strictness : Strictness) (entry : Value × Value) : Checked (Text × Scalar) :=
  (Checked.apply (Checked.map Prod.mk ((readText strictness entry.1).under (.name "[key]")))
    fun _ => readScalar strictness entry.2).under (keyStep entry.1)

/-- A configuration. -/
def readConfig (strictness : Strictness) : Reader Config
  | .map entries => (Checked.each (entries.map (readEntry strictness))).map OrderedMap.ofList
  | _ => .issue .dictType

/-! ### Values built from others -/

/-- Items with their places in paths. -/
def readItems {α : Type} (item : Reader α) (items : List Value) : Checked (List α) :=
  Checked.each (items.zipIdx.map fun entry => (item entry.1).under (.index entry.2))

/-- The items of a sequence: of all that can be gone through but texts, bytes and maps. -/
def sequence? : Value → Option (List Value)
  | .scalar _ => none
  | .bytes _ => none
  | .map _ => none
  | value => value.items?

/-- A sequence, read leniently; anything else is wrong in the given way. -/
def readSequence {α : Type} (otherwise : IssueKind) (item : Reader α) : Reader (List α) := fun value =>
  match sequence? value with
  | some items => readItems item items
  | none => .issue otherwise

/-- A list, read leniently. -/
def readList {α : Type} (item : Reader α) : Reader (List α) := readSequence .listType item

/-- A sequence that will not change, for which a list is taken. -/
def readTuple {α : Type} (item : Reader α) : Reader (List α) := readSequence .tupleType item

/-- A value that may be absent. -/
def readOption {α : Type} (present : Reader α) : Reader (Option α)
  | .absent => .fits none
  | value => (present value).map some

/-! ### Fields -/

/-- A field that must be there. -/
def required {α : Type} (entries : Entries) (name : Text) (reader : Reader α) : Checked α :=
  (match entries.get? name with
    | some value => reader value
    | none => .issue .missing).under (.name name)

/-- A field with a default. -/
def optional {α : Type} (entries : Entries) (name : Text) (default : α) (reader : Reader α) :
    Checked α :=
  match entries.get? name with
  | some value => (reader value).under (.name name)
  | none => .fits default

end BlockPage.Intake
