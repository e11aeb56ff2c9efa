/-
**Parts of a text.**

* `strip`: a text without blanks at its ends; `stripStart` drops the leading ones only.
* `splitOn separator text`: the pieces between the occurrences of a non-empty separator, read from the
  left without overlap; there is one piece more than there are occurrences.
* `words`: the pieces between blanks, of which none is empty.
* `indent`: the lines of a text that are not empty, moved to the right.
-/

import BlockPage.Text.Classes

namespace BlockPage.Text

/-! ### Stripping -/

/-- The text without its leading blanks. -/
def stripStart (text : Text) : Text := text.dropWhile isBlank

/-- The text without its leading and trailing blanks. -/
def strip (text : Text) : Text := (stripStart (stripStart text).reverse).reverse

/-- The text is empty or all blank. -/
def isAllBlank (text : Text) : Bool := text.all isBlank

/-! ### Splitting -/

/-- The pieces of the rest of a text. `skipped` code points belong to a separator that has been
recognised, `piece` is the current piece and `pieces` the finished ones, both in reverse. -/
def splitLoop (separator : Text) : Nat → Text → List Text → Text → List Text
  | _, piece, pieces, [] => (piece.reverse :: pieces).reverse
  | skipped + 1, piece, pieces, _ :: rest => splitLoop separator skipped piece pieces rest
  | 0, piece, pieces, first :: rest =>
    if separator.isPrefixOf (first :: rest) then
      splitLoop separator (separator.length - 1) [] (piece.reverse :: pieces) rest
    else
      splitLoop separator 0 (first :: piece) pieces rest

/-- The pieces between the occurrences of a separator that is not empty. -/
def splitOn (separator text : Text) : List Text := splitLoop separator 0 [] [] text

/-- The pieces between the code points of a class, empty ones included. `piece` is the current piece and
`pieces` the finished ones, both in reverse. -/
def piecesBetween (isSeparator : CodePoint → Bool) : Text → List Text → Text → List Text
  | piece, pieces, [] => (piece.reverse :: pieces).reverse
  | piece, pieces, first :: rest =>
    if isSeparator first then piecesBetween isSeparator [] (piece.reverse :: pieces) rest
    else piecesBetween isSeparator (first :: piece) pieces rest

/-- The pieces between blanks that are not empty. -/
def words (text : Text) : List Text :=
  (piecesBetween isBlank [] [] text).filter fun piece => !piece.isEmpty

/-- The lines of a text, which newlines separate. -/
def lines (text : Text) : List Text := splitOn [CodePoint.newline] text

/-- Every line that is not empty, moved to the right by the given number of spaces. -/
def indent (text : Text) (spaces : Nat) : Text :=
  join [CodePoint.newline] ((lines text).map fun line =>
    if line.isEmpty then line else List.replicate spaces CodePoint.space ++ line)

end BlockPage.Text
