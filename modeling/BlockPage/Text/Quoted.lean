/-
**Text inside messages and inside markup.**

A message shows a text between apostrophes, or between quotation marks when it holds an apostrophe and
no quotation mark. The quote, the backslash and unprintable code points are written as escapes, the
others as themselves. In markup the five characters that end text or an attribute value are written as
references; all others stand for themselves.

* `quoteOf`: which quote a text takes; `quoted`: the quoted text.
* `bytesQuoted`: the same for a sequence of bytes.
* `escape`: a text as markup.
-/

import BlockPage.Text.Classes

namespace BlockPage.Text

open CodePoint

/-! ### Quotes -/

/-- A number in lower-case hexadecimal digits, filled up with zeros to the given width. -/
def hexadecimal (width value : Nat) : Text :=
  let digits := (Nat.toDigits 16 value).map Char.toNat
  List.replicate (width - digits.length) zero ++ digits

/-- The quote around a text. -/
def quoteOf (text : Text) : CodePoint :=
  if text.contains apostrophe && !text.contains quotationMark then quotationMark else apostrophe

/-- A code point between quotes. -/
def quotedPoint (quote point : CodePoint) : Text :=
  if point = quote || point = backslash then [backslash, point]
  else if point = newline then "\\n"
  else if point = carriageReturn then "\\r"
  else if point = tab then "\\t"
  else if isPrintable point then [point]
  else if point < 0x100 then ofString "\\x" ++ hexadecimal 2 point
  else if point < 0x10000 then ofString "\\u" ++ hexadecimal 4 point
  else ofString "\\U" ++ hexadecimal 8 point

/-- The text between quotes. -/
def quoted (text : Text) : Text :=
  let quote := quoteOf text
  quote :: text.flatMap (quotedPoint quote) ++ [quote]

/-- A byte between quotes: ASCII as in a text, all else by its two hexadecimal digits. -/
def quotedByte (quote byte : Nat) : Text :=
  if byte < 0x7F then quotedPoint quote byte else ofString "\\x" ++ hexadecimal 2 byte

/-- A sequence of bytes between quotes. -/
def bytesQuoted (bytes : List Nat) : Text :=
  let quote := quoteOf bytes
  ofString "b" ++ quote :: bytes.flatMap (quotedByte quote) ++ [quote]

/-! ### Markup -/

/-- A code point as markup: a reference for the five that could end the text it stands in. -/
def escapePoint (point : CodePoint) : Text :=
  if point = ampersand then "&amp;"
  else if point = lessThan then "&lt;"
  else if point = greaterThan then "&gt;"
  else if point = quotationMark then "&#34;"
  else if point = apostrophe then "&#39;"
  else [point]

/-- A text as markup. -/
def escape (text : Text) : Text := text.flatMap escapePoint

end BlockPage.Text
