/-
**Markup of library blocks.**

Markup is a sequence of pieces: literals of the library, and texts from configurations, which are
written escaped. So no text from a configuration can end the element or attribute it stands in.

* `Piece`, `Markup`, `Markup.render`.
* `Markup.when`: markup under a condition.
* `headingMarkup`: a title with a subtitle below it, `titleMarkup`: a title alone; `headingStyle`.
-/

import BlockPage.Library.Arguments
import BlockPage.Text.Quoted

namespace BlockPage.Library

/-- A part of markup. -/
inductive Piece where
  | literal (written : Text)
  | shown (text : Text)
  deriving DecidableEq, Repr

/-- A part of markup as it is written. -/
def Piece.render : Piece → Text
  | literal written => written
  | shown text => Text.escape text

/-- A sequence of literals and texts. -/
abbrev Markup := List Piece

instance : Coe String Markup := ⟨fun written => [.literal written]⟩

namespace Markup

/-- Markup one after the other. -/
def concat (parts : List Markup) : Markup := parts.flatten

/-- A text from a configuration. -/
def shown (text : Text) : Markup := [.shown text]

/-- Markup under a condition. -/
def when (condition : Bool) (markup : Markup) : Markup := if condition then markup else []

/-- Markup for a text that is not empty. -/
def whenText (text : Text) (markup : Text → Markup) : Markup :=
  if text.isEmpty then [] else markup text

/-- Markup for each item. -/
def forEach {α : Type} (items : List α) (markup : α → Markup) : Markup := items.flatMap markup

/-- The written markup. -/
def render (markup : Markup) : Text := markup.flatMap Piece.render

end Markup

/-! ### Headings -/

/-- A title with a subtitle, each only if it is not empty. -/
def headingMarkup (title subtitle : Text) : Markup :=
  .whenText title fun title => Markup.concat
    ["    <div class=\"text-center mb-8\"><h2 class=\"cs-section-title\">", .shown title, "</h2>",
      .whenText subtitle fun subtitle => Markup.concat
        ["<p class=\"cs-section-sub\">", .shown subtitle, "</p>"],
      "</div>\n"]

/-- A title, if it is not empty. -/
def titleMarkup (title : Text) : Markup := headingMarkup title []

/-- The style of headings. -/
def headingStyle : Text := sheet [
    ".cs-section-title \x7b font-size: clamp(1.6rem, 3vw, 2.4rem); font-weight: 800; letter-spacing: -.03em; margin-bottom: .75rem; \x7d",
    ".cs-section-sub \x7b font-size: 1.05rem; color: var(--text-2, #64748B); max-width: 560px; margin: 0 auto; \x7d"]

end BlockPage.Library
