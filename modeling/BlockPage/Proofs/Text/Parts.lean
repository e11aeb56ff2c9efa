/-
**Splitting, joining and stripping.**

At one code point a text is split as any list is at one of its items. So pieces that do not hold the
code point are found again behind a join. A text is what is left of it without blanks at its ends, between
blanks. Where a text is split at a code point that is no blank and the pieces lose their blanks, it makes no
difference whether the text itself has lost its own before: the first and the last piece lose them anyway.

* `mem_of_mem_intercalate`: what a join holds; `join_cons`, `join_concat`: one more piece at either end.
* `splitOn_point`: splitting at one code point is splitting of lists; `splitOn_join`: pieces without the
  separator come back.
* `strip_append_left`, `strip_append_right`, `exists_strip`: blanks around a text; `strip_strip`: they are
  taken away once and for all; `isAllBlank_strip`: what is left is not blank.
* `splitOn_append_left`, `splitOn_append_right`: more text in the first and in the last piece.
* `map_strip_splitOn`, `count_strip`: pieces of a stripped text; `length_splitOn`: how many pieces there
  are; `of_mem_splitOn`: what is in them.
-/

import BlockPage.Text.Parts
import Mathlib.Data.List.TakeWhile

namespace BlockPage

/-- What is in a joined list comes from the separator or from a part. -/
theorem mem_of_mem_intercalate {α : Type} {separator : List α} {parts : List (List α)} {item : α}
    (inside : item ∈ separator.intercalate parts) :
    item ∈ separator ∨ ∃ part ∈ parts, item ∈ part := by
  induction parts with
  | nil => cases inside
  | cons first rest ih =>
    cases rest with
    | nil => exact .inr ⟨first, .head _, by simpa using inside⟩
    | cons second rest =>
      rw [List.intercalate_cons_cons, List.mem_append, List.mem_append] at inside
      rcases inside with (here | between) | behind
      · exact .inr ⟨first, .head _, here⟩
      · exact .inl between
      · exact (ih behind).imp_right fun ⟨part, listed, inner⟩ => ⟨part, .tail _ listed, inner⟩

namespace Text

/-! ### Joining and splitting -/

theorem join_cons (separator first : Text) {rest : List Text} (nonempty : rest ≠ []) :
    join separator (first :: rest) = first ++ (separator ++ join separator rest) := by
  rw [join, List.intercalate_cons_of_ne_nil nonempty, List.append_assoc]
  rfl

theorem join_concat (separator : Text) {parts : List Text} (nonempty : parts ≠ []) (last : Text) :
    join separator (parts ++ [last]) = join separator parts ++ (separator ++ last) := by
  induction parts with
  | nil => exact absurd rfl nonempty
  | cons first rest ih =>
    by_cases more : rest = []
    · rw [more, List.singleton_append, join_cons separator first (List.cons_ne_nil last [])]
      simp [join]
    · rw [List.cons_append, join_cons separator first (by simp), ih more, join_cons separator first more,
        List.append_assoc, List.append_assoc]

section Points

variable (point : CodePoint)

/-- The current piece stands in front of the first piece of the rest. -/
theorem splitLoop_point (text : Text) : ∀ (piece : Text) (pieces : List Text),
    splitLoop [point] 0 piece pieces text =
      pieces.reverse ++ (List.splitOn point text).modifyHead (piece.reverse ++ ·) := by
  induction text with
  | nil =>
    intro piece pieces
    simp [splitLoop]
  | cons first rest ih =>
    intro piece pieces
    have split : List.splitOn point (first :: rest) = if (first == point) = true
        then [] :: List.splitOn point rest else (List.splitOn point rest).modifyHead (first :: ·) :=
      List.splitOnP_cons_eq_if_modifyHead first rest
    rw [splitLoop, split]
    by_cases here : first = point
    · have found : [point].isPrefixOf (first :: rest) = true := by simp [here]
      rw [if_pos found, if_pos (beq_iff_eq.mpr here)]
      show splitLoop [point] 0 [] (piece.reverse :: pieces) rest = _
      rw [ih]
      cases List.splitOn point rest <;> simp
    · have other : [point].isPrefixOf (first :: rest) = false := by
        simp [List.isPrefixOf, Ne.symm here]
      rw [other, if_neg (by decide), if_neg (by simpa using here), ih]
      cases List.splitOn point rest <;> simp

theorem splitOn_point (text : Text) : splitOn [point] text = List.splitOn point text := by
  rw [splitOn, splitLoop_point]
  cases List.splitOn point text <;> simp

/-- **Parts without the separator are split as they were joined.** -/
theorem splitOn_join {pieces : List Text} (nonempty : pieces ≠ []) (free : ∀ piece ∈ pieces, point ∉ piece) :
    splitOn [point] (join [point] pieces) = pieces := by
  rw [splitOn_point]
  exact List.splitOn_intercalate point free nonempty

end Points

/-! ### Blanks at the ends -/

section Blanks

variable {blanks : Text} (blank : ∀ point ∈ blanks, isBlank point = true)
include blank

theorem stripStart_append (text : Text) : stripStart (blanks ++ text) = stripStart text :=
  List.dropWhile_append_of_pos blank

theorem strip_append_left (text : Text) : strip (blanks ++ text) = strip text := by
  rw [strip, strip, stripStart_append blank]

theorem strip_append_right (text : Text) : strip (text ++ blanks) = strip text := by
  have reversed : ∀ point ∈ blanks.reverse, isBlank point = true := fun point inside =>
    blank point (List.mem_reverse.mp inside)
  have start : stripStart (text ++ blanks) =
      if (stripStart text).isEmpty then [] else stripStart text ++ blanks := by
    rw [stripStart, List.dropWhile_append, List.dropWhile_eq_nil_iff.mpr blank]
    rfl
  rw [strip, strip, start]
  cases left : stripStart text with
  | nil => rfl
  | cons first rest =>
    rw [List.isEmpty_cons, if_neg Bool.false_ne_true, List.reverse_append, stripStart_append reversed]

end Blanks

/-- A text is what is left of it, between blanks. -/
theorem exists_strip (text : Text) : ∃ front behind, text = front ++ (strip text ++ behind) ∧
    (∀ point ∈ front, isBlank point = true) ∧ ∀ point ∈ behind, isBlank point = true := by
  refine ⟨text.takeWhile isBlank, ((stripStart text).reverse.takeWhile isBlank).reverse, ?_,
    fun point inside => List.mem_takeWhile_imp inside,
    fun point inside => List.mem_takeWhile_imp (List.mem_reverse.mp inside)⟩
  rw [strip, ← List.reverse_append, stripStart, stripStart, List.takeWhile_append_dropWhile,
    List.reverse_reverse, List.takeWhile_append_dropWhile]

theorem mem_of_mem_strip {text : Text} {point : CodePoint} (inside : point ∈ strip text) : point ∈ text := by
  obtain ⟨front, behind, whole, -⟩ := exists_strip text
  rw [whole]
  exact List.mem_append_right front (List.mem_append_left behind inside)

/-- What is stripped has nothing left to strip. -/
theorem strip_strip (text : Text) : strip (strip text) = strip text := by
  obtain ⟨front, behind, whole, blank, blank'⟩ := exists_strip text
  have stripped := congrArg strip whole
  rw [strip_append_left blank, strip_append_right blank'] at stripped
  exact stripped.symm

theorem isAllBlank_stripStart {text : Text} (left : stripStart text ≠ []) :
    isAllBlank (stripStart text) = false := by
  have first := List.head_dropWhile_not isBlank left
  rw [isAllBlank, List.all_eq_false]
  exact ⟨_, List.head_mem left, Bool.not_eq_true _ ▸ first⟩

/-- What is left of a stripped text is not blank. -/
theorem isAllBlank_strip {text : Text} (left : strip text ≠ []) :
    isAllBlank (strip text) = false := by
  have inner : stripStart (stripStart text).reverse ≠ [] := fun empty => left (by rw [strip, empty]; rfl)
  rw [strip, isAllBlank, List.all_reverse]
  exact isAllBlank_stripStart inner

/-! ### Pieces -/

section Pieces

variable {point : CodePoint}

/-- Text without the separator stands in front of the first piece. -/
theorem splitOn_append_left {front : Text} (absent : point ∉ front) (text : Text) :
    List.splitOn point (front ++ text) = (List.splitOn point text).modifyHead (front ++ ·) := by
  induction front with
  | nil =>
    rw [List.nil_append]
    cases List.splitOn point text <;> rfl
  | cons first rest ih =>
    rw [List.mem_cons, not_or] at absent
    have other : ¬ (first == point) = true := by simpa using Ne.symm absent.1
    rw [List.cons_append, List.splitOn_cons_eq_if_modifyHead, if_neg other, ih absent.2]
    cases List.splitOn point text <;> rfl

/-- Text without the separator stands behind the last piece. -/
theorem splitOn_append_right {behind : Text} (absent : point ∉ behind) (text : Text) :
    ∃ pieces last, List.splitOn point text = pieces ++ [last] ∧
      List.splitOn point (text ++ behind) = pieces ++ [last ++ behind] := by
  induction text with
  | nil => exact ⟨[], [], List.splitOn_nil point, List.splitOn_eq_singleton absent⟩
  | cons first rest ih =>
    obtain ⟨pieces, last, split, split'⟩ := ih
    rw [List.cons_append, List.splitOn_cons_eq_if_modifyHead, List.splitOn_cons_eq_if_modifyHead, split,
      split']
    by_cases here : (first == point) = true
    · rw [if_pos here, if_pos here]
      exact ⟨[] :: pieces, last, rfl, rfl⟩
    · rw [if_neg here, if_neg here]
      cases pieces with
      | nil => exact ⟨[], first :: last, rfl, rfl⟩
      | cons piece pieces => exact ⟨(first :: piece) :: pieces, last, rfl, rfl⟩

/-- The pieces of a stripped text are those of the text, once they are stripped themselves. -/
theorem map_strip_splitOn (foreign : isBlank point = false) (text : Text) :
    (List.splitOn point (strip text)).map strip = (List.splitOn point text).map strip := by
  obtain ⟨front, behind, whole, blank, blank'⟩ := exists_strip text
  have absent : ∀ {blanks : Text}, (∀ other ∈ blanks, isBlank other = true) → point ∉ blanks :=
    fun blank inside => Bool.false_ne_true (foreign.symm.trans (blank point inside))
  obtain ⟨pieces, last, split, split'⟩ := splitOn_append_right (absent blank') (strip text)
  have same : (List.splitOn point (strip text ++ behind)).map strip =
      (List.splitOn point (strip text)).map strip := by
    rw [split, split', List.map_append, List.map_append, List.map_singleton, List.map_singleton,
      strip_append_right blank']
  have same' : (List.splitOn point text).map strip =
      (List.splitOn point (strip text ++ behind)).map strip := by
    have split := congrArg (List.splitOn point) whole
    rw [split, splitOn_append_left (absent blank)]
    cases List.splitOn point (strip text ++ behind) with
    | nil => rfl
    | cons first rest => rw [List.modifyHead_cons, List.map_cons, List.map_cons, strip_append_left blank]
  rw [same', same]

/-- Stripping takes away blanks only. -/
theorem count_strip (foreign : isBlank point = false) (text : Text) :
    (strip text).count point = text.count point := by
  obtain ⟨front, behind, whole, blank, blank'⟩ := exists_strip text
  have absent : ∀ {blanks : Text}, (∀ other ∈ blanks, isBlank other = true) → blanks.count point = 0 :=
    fun blank => List.count_eq_zero_of_not_mem fun inside =>
      Bool.false_ne_true (foreign.symm.trans (blank point inside))
  have counted := congrArg (List.count point) whole
  rw [List.count_append, List.count_append, absent blank, absent blank', Nat.zero_add] at counted
  exact counted.symm

/-- There is one piece more than there are separators. -/
theorem length_splitOn (point : CodePoint) (text : Text) :
    (List.splitOn point text).length = 1 + text.count point := by
  induction text with
  | nil => rfl
  | cons first rest ih =>
    rw [List.splitOn_cons_eq_if_modifyHead, List.count_cons]
    by_cases here : (first == point) = true
    · rw [if_pos here, if_pos here, List.length_cons, ih, Nat.add_assoc]
    · rw [if_neg here, if_neg here, List.length_modifyHead, ih]
      rfl

/-- A piece holds what the text holds, but no separator. -/
theorem of_mem_splitOn {text piece : Text} (listed : piece ∈ List.splitOn point text) :
    ∀ other ∈ piece, other ∈ text ∧ other ≠ point := by
  induction text generalizing piece with
  | nil =>
    rw [List.splitOn_nil, List.mem_singleton] at listed
    rw [listed]
    exact List.forall_mem_nil _
  | cons first rest ih =>
    have behind : ∀ {piece : Text}, piece ∈ List.splitOn point rest →
        ∀ other ∈ piece, other ∈ first :: rest ∧ other ≠ point := fun listed other inside =>
      (ih listed other inside).imp_left (List.mem_cons_of_mem first)
    rw [List.splitOn_cons_eq_if_modifyHead] at listed
    by_cases here : (first == point) = true
    · rw [if_pos here] at listed
      rcases List.mem_cons.mp listed with rfl | listed
      · exact List.forall_mem_nil _
      · exact behind listed
    · rw [if_neg here] at listed
      cases split : List.splitOn point rest with
      | nil =>
        rw [split] at listed
        cases listed
      | cons head tail =>
        rw [split, List.modifyHead_cons] at listed
        rw [split] at behind
        rcases List.mem_cons.mp listed with rfl | listed
        · exact List.forall_mem_cons.mpr
            ⟨⟨.head _, fun same => here (beq_iff_eq.mpr same)⟩, behind (.head _)⟩
        · exact behind (.tail _ listed)

end Pieces

end Text

end BlockPage
