/-
**The pieces of markup.**

Markup is written from literals of the library and from texts, which are escaped. The marks that begin and
end elements and attribute values come from the literals alone.

* `Text.marks`, `Text.mark_not_mem_escape`: the marks, none of which an escaped text has.
* `Markup.literals`: the literals in order, through all the ways in which markup is put together.
* `Markup.count_render`: the marks of written markup are those of its literals.
* `Markup.IsElement`: markup that is one element behind a line break; `Markup.strip_render`: without the
  blanks at its ends it is `Markup.trimmed`.
-/

import BlockPage.Library.Markup
import BlockPage.Proofs.Text.Parts
import BlockPage.Text.Parts
import Mathlib.Data.List.Forall2
import Mathlib.Tactic.SplitIfs

namespace BlockPage

/-! ### Marks -/

namespace Text

open CodePoint

/-- The marks that begin and end elements and attribute values. -/
def marks : List CodePoint := [lessThan, greaterThan, quotationMark, apostrophe]

/-- No mark is left in an escaped code point. -/
theorem mark_not_mem_escapePoint {mark : CodePoint} (isMark : mark ∈ marks) (point : CodePoint) :
    mark ∉ escapePoint point := by
  have references : ∀ mark ∈ marks, mark ∉ Text.ofString "&amp;" ∧ mark ∉ Text.ofString "&lt;" ∧
      mark ∉ Text.ofString "&gt;" ∧ mark ∉ Text.ofString "&#34;" ∧ mark ∉ Text.ofString "&#39;" := by
    decide
  obtain ⟨ampersand, less, greater, quotation, apostrophe⟩ := references mark isMark
  unfold escapePoint
  split_ifs with h₁ h₂ h₃ h₄ h₅
  · exact ampersand
  · exact less
  · exact greater
  · exact quotation
  · exact apostrophe
  · -- a code point that stands for itself is no mark
    rw [List.mem_singleton]
    rintro rfl
    simp [marks, h₂, h₃, h₄, h₅] at isMark

/-- No mark is left in an escaped text. -/
theorem mark_not_mem_escape {mark : CodePoint} (isMark : mark ∈ marks) (text : Text) :
    mark ∉ escape text := by
  intro inside
  obtain ⟨point, _, inside⟩ := List.mem_flatMap.mp inside
  exact mark_not_mem_escapePoint isMark point inside

/-- A line break in front of a text without blanks at its ends is all that is stripped. -/
theorem strip_newline_cons {text : Text} {first last : CodePoint} (starts : text.head? = some first)
    (ends : text.getLast? = some last) (firstBlank : isBlank first = false)
    (lastBlank : isBlank last = false) : strip (newline :: text) = text := by
  have front : stripStart (newline :: text) = text := by
    rw [stripStart, List.dropWhile_cons_of_pos isBlank_newline]
    obtain ⟨rest, rfl⟩ := List.head?_eq_some_iff.mp starts
    rw [List.dropWhile_cons_of_neg (by rw [firstBlank]; decide)]
  have back : stripStart text.reverse = text.reverse := by
    obtain ⟨rest, rfl⟩ := List.getLast?_eq_some_iff.mp ends
    rw [List.reverse_append, List.reverse_singleton, List.singleton_append, stripStart,
      List.dropWhile_cons_of_neg (by rw [lastBlank]; decide)]
  rw [strip, front, back, List.reverse_reverse]

end Text

namespace Library

/-- The literal that a piece is. -/
def Piece.literal? : Piece → Option Text
  | literal written => some written
  | shown _ => none

namespace Markup

/-! ### Literals -/

/-- The literals in order. -/
def literals (markup : Markup) : List Text := markup.filterMap Piece.literal?

section Literals

variable {α : Type}

@[simp] theorem literals_append (left right : Markup) :
    literals (left ++ right) = literals left ++ literals right :=
  List.filterMap_append

@[simp] theorem literals_concat (parts : List Markup) : literals (concat parts) = parts.flatMap literals := by
  rw [literals, concat, List.filterMap_flatten, List.flatMap_def]
  rfl

@[simp] theorem literals_literal (written : Text) : literals [.literal written] = [written] := rfl

@[simp] theorem literals_shown (text : Text) : literals (shown text) = [] := rfl

@[simp] theorem literals_when (condition : Bool) (markup : Markup) :
    literals (when condition markup) = if condition then literals markup else [] := by
  cases condition <;> rfl

@[simp] theorem literals_whenText (text : Text) (markup : Text → Markup) :
    literals (whenText text markup) = if text.isEmpty then [] else literals (markup text) := by
  unfold whenText
  split <;> rfl

/-- The literals for each item are those of all items. -/
theorem literals_forEach (items : List α) (markup : α → Markup) :
    literals (forEach items markup) = items.flatMap fun item => literals (markup item) := by
  rw [literals, forEach, List.filterMap_flatMap]
  rfl

/-- Where all items have the same literals, only their number counts. -/
theorem literals_forEach_eq {items others : List α} {markup : α → Markup}
    (each : ∀ first second, literals (markup first) = literals (markup second))
    (same : items.length = others.length) :
    literals (forEach items markup) = literals (forEach others markup) := by
  rw [literals_forEach, literals_forEach]
  induction items generalizing others with
  | nil => rw [List.length_eq_zero_iff.mp same.symm]
  | cons first rest ih =>
    cases others with
    | nil => cases same
    | cons second others =>
      rw [List.flatMap_cons, List.flatMap_cons, each first second, ih (Nat.succ.inj same)]

/-- Where items with the same literals stand at the same places, so do all literals. -/
theorem literals_forEach_congr {items others : List α} {markup : α → Markup}
    (same : List.Forall₂ (fun first second => literals (markup first) = literals (markup second))
      items others) :
    literals (forEach items markup) = literals (forEach others markup) := by
  rw [literals_forEach, literals_forEach]
  induction same with
  | nil => rfl
  | cons here _ ih => rw [List.flatMap_cons, List.flatMap_cons, here, ih]

theorem literals_intercalate (separator : Markup) (parts : List Markup) :
    literals (separator.intercalate parts) = (literals separator).intercalate (parts.map literals) := by
  induction parts with
  | nil => rfl
  | cons first rest ih =>
    cases rest with
    | nil => simp
    | cons second rest =>
      rw [List.intercalate_cons_cons, literals_append, literals_append, ih]
      simp only [List.map_cons, List.intercalate_cons_cons]

/-- The literals of markup are among its pieces. -/
theorem mem_literals {written : Text} {markup : Markup} :
    written ∈ literals markup ↔ Piece.literal written ∈ markup := by
  rw [literals, List.mem_filterMap]
  constructor
  · rintro ⟨piece, inside, same⟩
    cases piece with
    | literal other => exact Option.some.inj same ▸ inside
    | shown text => cases same
  · exact fun inside => ⟨_, inside, rfl⟩

end Literals

/-! ### Written markup -/

theorem render_append (left right : Markup) : render (left ++ right) = render left ++ render right :=
  List.flatMap_append

theorem render_concat (parts : List Markup) : render (concat parts) = Text.concat (parts.map render) := by
  induction parts with
  | nil => rfl
  | cons first rest ih =>
    rw [concat, List.flatten_cons, render_append, List.map_cons, Text.concat, List.flatten_cons]
    exact congrArg _ ih

/-- Markup with a separator is written as a join. -/
theorem render_intercalate (separator : Markup) (parts : List Markup) :
    render (separator.intercalate parts) = Text.join (render separator) (parts.map render) := by
  induction parts with
  | nil => rfl
  | cons first rest ih =>
    cases rest with
    | nil => simp [Text.join]
    | cons second rest =>
      rw [List.intercalate_cons_cons, render_append, render_append, ih, Text.join, Text.join]
      simp only [List.map_cons, List.intercalate_cons_cons]

/-- The marks of written markup are those of its literals. -/
theorem count_render {mark : CodePoint} (isMark : mark ∈ Text.marks) (markup : Markup) :
    (render markup).count mark = (Text.concat (literals markup)).count mark := by
  induction markup with
  | nil => rfl
  | cons piece rest ih =>
    rw [render, List.flatMap_cons, List.count_append]
    cases piece with
    | literal written =>
      show written.count mark + (render rest).count mark =
        (written ++ Text.concat (literals rest)).count mark
      rw [ih, List.count_append]
    | shown text =>
      show (Text.escape text).count mark + (render rest).count mark =
        (Text.concat (literals rest)).count mark
      rw [List.count_eq_zero.mpr (Text.mark_not_mem_escape isMark text), Nat.zero_add, ih]

/-! ### Elements -/

/-- Markup that begins with a line break and a tag and ends with a tag. -/
def IsElement (markup : Markup) : Prop :=
  ∃ opening inside closing, markup = .literal opening :: (inside ++ [.literal closing]) ∧
    opening.take 2 = [CodePoint.newline, CodePoint.lessThan] ∧
    closing.getLast? = some CodePoint.greaterThan

/-- A first literal without its first code point. -/
def trimmed : Markup → Markup
  | .literal written :: rest => .literal (written.drop 1) :: rest
  | markup => markup

@[simp] theorem trimmed_concat (written : Text) (rest : List Markup) :
    trimmed (concat ([.literal written] :: rest)) = concat ([.literal (written.drop 1)] :: rest) := rfl

section Elements

variable {markup : Markup}

/-- Elements of the same literals have the same literals when they are trimmed. -/
theorem literals_trimmed_congr {other : Markup} (element : IsElement markup) (element' : IsElement other)
    (same : literals markup = literals other) : literals (trimmed markup) = literals (trimmed other) := by
  obtain ⟨opening, inside, closing, rfl, -, -⟩ := element
  obtain ⟨opening', inside', closing', rfl, -, -⟩ := element'
  have apart : opening :: literals (inside ++ [.literal closing]) =
      opening' :: literals (inside' ++ [.literal closing']) := same
  rw [List.cons.injEq] at apart
  show opening.drop 1 :: literals (inside ++ [.literal closing]) =
    opening'.drop 1 :: literals (inside' ++ [.literal closing'])
  rw [apart.1, apart.2]

/-- An element is written between two angles, behind one newline. -/
theorem render_trimmed (element : IsElement markup) :
    ∃ inner, render (trimmed markup) = CodePoint.lessThan :: (inner ++ [CodePoint.greaterThan]) ∧
      render markup = CodePoint.newline :: render (trimmed markup) := by
  obtain ⟨opening, inside, closing, rfl, starts, ends⟩ := element
  obtain ⟨text, rfl⟩ := List.getLast?_eq_some_iff.mp ends
  match opening, starts with
  | _ :: _ :: rest, starts =>
    cases starts
    refine ⟨rest ++ (render inside ++ text), ?_, rfl⟩
    simp [trimmed, render, Piece.render]

theorem strip_render (element : IsElement markup) :
    Text.strip (render markup) = render (trimmed markup) := by
  obtain ⟨inner, shape, written⟩ := render_trimmed element
  have starts : (render (trimmed markup)).head? = some CodePoint.lessThan := by
    rw [shape, List.head?_cons]
  have ends : (render (trimmed markup)).getLast? = some CodePoint.greaterThan := by
    rw [shape, List.getLast?_cons, List.getLast?_concat]
    rfl
  rw [written, Text.strip_newline_cons starts ends rfl rfl]

/-- An element is not blank. -/
theorem strip_render_ne_nil (element : IsElement markup) : Text.strip (render markup) ≠ [] := by
  obtain ⟨inner, shape, _⟩ := render_trimmed element
  rw [strip_render element, shape]
  exact List.cons_ne_nil _ _

/-- Parts of which the first begins with a tag behind a line break and the last ends with a tag. -/
theorem isElement_concat {parts : List Markup} {opening closing : Text}
    (first : parts.head? = some [.literal opening]) (last : parts.tail.getLast? = some [.literal closing])
    (starts : opening.take 2 = [CodePoint.newline, CodePoint.lessThan])
    (ends : closing.getLast? = some CodePoint.greaterThan) : IsElement (concat parts) := by
  obtain ⟨rest, rfl⟩ := List.head?_eq_some_iff.mp first
  obtain ⟨inside, same⟩ := List.getLast?_eq_some_iff.mp last
  rw [List.tail_cons] at same
  exact ⟨opening, inside.flatten, closing, by simp [concat, same], starts, ends⟩

end Elements

end Markup

end Library

end BlockPage
