/-
**Where a pattern occurs.**

A text is free of a pattern if no occurrence of it begins there, whatever stands behind. Occurrences are
then counted piece by piece: free pieces add none, and none reaches across a code point that the pattern
does not have.

* `occurrences`, `occurrences_pattern_append`, `occurrences_eq_zero_iff`: how often a pattern occurs.
* `isFree`: the check of a text; `isFree_of_not_mem`, `isFree_ofString`: texts without the first code point
  of the pattern, and literals.
* `occurrences_append`, `occurrences_separated`, `occurrences_join`: how often it occurs in pieces.
* `dropInfix?_of_isFree`, `not_infix_of_dropInfix?`: the text before the first occurrence.
-/

import BlockPage.Text.Basic
import Mathlib.Data.List.Infix

namespace BlockPage.Text

/-- How often a pattern occurs in a text. -/
def occurrences (pattern : Text) : Text → Nat
  | [] => 0
  | first :: rest =>
    (if pattern.isPrefixOf (first :: rest) then 1 else 0) + occurrences pattern rest

/-- No occurrence of a pattern begins in the text: what is left of the text at any place is neither as the
pattern begins nor the beginning of the pattern. -/
def isFree (pattern : Text) : Text → Bool
  | [] => true
  | first :: rest => !pattern.isPrefixOf (first :: rest) && !(first :: rest).isPrefixOf pattern &&
      isFree pattern rest

section Pattern

variable {pattern : Text}

/-- A free text has the pattern neither at its beginning nor cut off by its end, and its rest is free. -/
theorem isFree_cons {first : CodePoint} {rest : Text} : isFree pattern (first :: rest) = true ↔
    (¬ pattern <+: first :: rest ∧ ¬ first :: rest <+: pattern) ∧ isFree pattern rest = true := by
  rw [isFree, Bool.and_eq_true, Bool.and_eq_true, Bool.not_eq_true', Bool.not_eq_true',
    ← Bool.not_eq_true, ← Bool.not_eq_true, List.isPrefixOf_iff_prefix, List.isPrefixOf_iff_prefix]

/-- Nothing that begins in a free text is the pattern. -/
theorem not_prefix_append {first : CodePoint} {rest : Text}
    (free : isFree pattern (first :: rest) = true) (behind : Text) :
    ¬ pattern <+: first :: rest ++ behind := by
  obtain ⟨⟨notBegun, notWhole⟩, _⟩ := isFree_cons.mp free
  intro begins
  rcases List.prefix_or_prefix_of_prefix begins (List.prefix_append (first :: rest) behind) with h | h
  · exact notBegun h
  · exact notWhole h

/-- A free text adds no occurrence to what stands behind it. -/
theorem occurrences_append {front : Text} (free : isFree pattern front = true) (behind : Text) :
    occurrences pattern (front ++ behind) = occurrences pattern behind := by
  induction front with
  | nil => rfl
  | cons first rest ih =>
    have elsewhere := not_prefix_append free behind
    have further := ih (isFree_cons.mp free).2
    rw [← List.isPrefixOf_iff_prefix] at elsewhere
    rw [List.cons_append] at elsewhere ⊢
    rw [occurrences, if_neg elsewhere, Nat.zero_add, further]

theorem occurrences_of_isFree {text : Text} (free : isFree pattern text = true) :
    occurrences pattern text = 0 := by
  have alone := occurrences_append free []
  rwa [List.append_nil] at alone

/-- The pattern occurs where it stands, and if it is not within itself it occurs once. -/
theorem occurrences_pattern_append (nonempty : pattern ≠ []) (inner : isFree pattern (pattern.drop 1) = true)
    (behind : Text) : occurrences pattern (pattern ++ behind) = 1 + occurrences pattern behind := by
  have begins : pattern.isPrefixOf (pattern ++ behind) = true :=
    List.isPrefixOf_iff_prefix.mpr (List.prefix_append _ _)
  obtain ⟨first, rest, rfl⟩ := List.exists_cons_of_ne_nil nonempty
  rw [List.cons_append] at begins ⊢
  rw [occurrences, if_pos begins]
  exact congrArg (1 + ·) (occurrences_append inner behind)

/-- No occurrence is counted when the pattern is no part of the text. -/
theorem occurrences_eq_zero_iff (nonempty : pattern ≠ []) {text : Text} :
    occurrences pattern text = 0 ↔ ¬ pattern <:+: text := by
  induction text with
  | nil => simpa [occurrences] using nonempty
  | cons first rest ih =>
    rw [occurrences, Nat.add_eq_zero_iff, ih, List.infix_cons_iff, not_or, ← List.isPrefixOf_iff_prefix]
    simp

/-! ### Free texts -/

/-- **Free texts stay free one behind the other**: no occurrence begins in the first and ends in the
second. -/
theorem isFree_append {left right : Text} (free : isFree pattern left = true)
    (free' : isFree pattern right = true) : isFree pattern (left ++ right) = true := by
  induction left with
  | nil => exact free'
  | cons first rest ih =>
    have elsewhere := not_prefix_append free right
    obtain ⟨⟨_, notWhole⟩, further⟩ := isFree_cons.mp free
    exact isFree_cons.mpr ⟨⟨elsewhere, fun begins => notWhole ((List.prefix_append _ right).trans begins)⟩,
      ih further⟩

theorem isFree_concat {parts : List Text} (each : ∀ part ∈ parts, isFree pattern part = true) :
    isFree pattern (concat parts) = true := by
  induction parts with
  | nil => rfl
  | cons first rest ih =>
    exact isFree_append (each first (.head _)) (ih fun part inside => each part (.tail _ inside))

theorem isFree_join {separator : Text} (between : isFree pattern separator = true) {parts : List Text}
    (each : ∀ part ∈ parts, isFree pattern part = true) : isFree pattern (join separator parts) = true := by
  induction parts with
  | nil => rfl
  | cons first rest ih =>
    have here := each first (.head _)
    cases rest with
    | nil => simpa [join] using here
    | cons second rest =>
      have behind := ih fun part inside => each part (.tail _ inside)
      rw [join, List.intercalate_cons_cons]
      exact isFree_append (isFree_append here between) behind

theorem isFree_drop {text : Text} (free : isFree pattern text = true) (count : Nat) :
    isFree pattern (text.drop count) = true := by
  induction count generalizing text with
  | zero => exact free
  | succ count ih =>
    cases text with
    | nil => rfl
    | cons first rest => exact ih (isFree_cons.mp free).2

/-- Where the pattern cannot begin it does not occur. -/
theorem isFree_of_not_mem {start : CodePoint} {further text : Text} (absent : start ∉ text) :
    isFree (start :: further) text = true := by
  induction text with
  | nil => rfl
  | cons first rest ih =>
    rw [List.mem_cons, not_or] at absent
    refine isFree_cons.mpr ⟨⟨fun begins => ?_, fun begins => ?_⟩, ih absent.2⟩
    · exact absent.1 (List.cons_prefix_cons.mp begins).1
    · exact absent.1 (List.cons_prefix_cons.mp begins).1.symm

/-- A literal is checked character by character. -/
theorem isFree_ofString {literal : String} {characters : List Char}
    (same : literal = String.ofList characters)
    (free : isFree pattern (characters.map Char.toNat) = true) : isFree pattern (ofString literal) = true := by
  rw [same, ofString_ofList, free]

/-- What a literal does not hold its characters do not show. -/
theorem not_mem_ofString {point : CodePoint} {literal : String} {characters : List Char}
    (same : literal = String.ofList characters) (absent : point ∉ characters.map Char.toNat) :
    point ∉ ofString literal := by
  rwa [same, ofString_ofList]

/-- A literal that is three literals one after the other. -/
theorem ofString_three {whole first second third : String} {left middle right : List Char}
    (same : first = String.ofList left) (same' : second = String.ofList middle)
    (same'' : third = String.ofList right) (joined : whole = String.ofList (left ++ (middle ++ right))) :
    ofString whole = ofString first ++ (ofString second ++ ofString third) := by
  rw [joined, same, same', same'']
  simp only [ofString_ofList, List.map_append]

/-! ### Pieces with a code point between them -/

section Separated

variable {point : CodePoint} (foreign : point ∉ pattern) (nonempty : pattern ≠ [])
include foreign nonempty

/-- No occurrence reaches across a code point that the pattern does not have. -/
theorem prefix_separated_iff {left right : Text} : pattern <+: left ++ point :: right ↔ pattern <+: left := by
  refine ⟨fun begins => ?_, fun begins => begins.trans (List.prefix_append _ _)⟩
  rcases List.prefix_or_prefix_of_prefix begins (List.prefix_append left (point :: right)) with h | h
  · exact h
  · -- the pattern would reach up to the point
    obtain ⟨further, rfl⟩ := h
    cases further with
    | nil => simp
    | cons first rest =>
      have same := (List.cons_prefix_cons.mp ((List.prefix_append_right_inj left).mp begins)).1
      simp [same] at foreign

/-- The pattern does not begin with such a code point. -/
theorem not_prefix_point (right : Text) : ¬ pattern <+: point :: right := by
  rw [← List.nil_append (point :: right), prefix_separated_iff foreign nonempty, List.prefix_nil]
  exact nonempty

/-- A code point that is foreign to the pattern separates what is counted. -/
theorem occurrences_separated (left right : Text) : occurrences pattern (left ++ point :: right) =
    occurrences pattern left + occurrences pattern right := by
  have elsewhere := not_prefix_point foreign nonempty right
  induction left with
  | nil =>
    rw [← List.isPrefixOf_iff_prefix] at elsewhere
    rw [List.nil_append, occurrences.eq_2, if_neg elsewhere, occurrences.eq_1]
  | cons first rest ih =>
    have same : pattern.isPrefixOf (first :: rest ++ point :: right) = pattern.isPrefixOf (first :: rest) := by
      rw [Bool.eq_iff_iff, List.isPrefixOf_iff_prefix, List.isPrefixOf_iff_prefix,
        prefix_separated_iff foreign nonempty]
    rw [List.cons_append] at same ⊢
    rw [occurrences, same, ih, occurrences, Nat.add_assoc]

/-- A text without occurrences is free with such a code point at its end. -/
theorem isFree_concat_point {text : Text} (absent : occurrences pattern text = 0) :
    isFree pattern (text ++ [point]) = true := by
  have notWhole : ∀ left, ¬ left ++ [point] <+: pattern := fun left begins =>
    foreign (begins.subset (List.mem_append_right _ (.head _)))
  induction text with
  | nil =>
    exact isFree_cons.mpr ⟨⟨not_prefix_point foreign nonempty [], notWhole []⟩, rfl⟩
  | cons first rest ih =>
    rw [occurrences, Nat.add_eq_zero_iff] at absent
    refine isFree_cons.mpr ⟨⟨fun begins => ?_, notWhole (first :: rest)⟩, ih absent.2⟩
    have here : pattern <+: first :: rest := (prefix_separated_iff foreign nonempty).mp begins
    rw [← List.isPrefixOf_iff_prefix] at here
    simp [here] at absent

end Separated

/-! ### Joined pieces -/

/-- How often a pattern occurs in each of some texts, all together. -/
def occurrencesIn (pattern : Text) : List Text → Nat
  | [] => 0
  | text :: rest => occurrences pattern text + occurrencesIn pattern rest

theorem occurrencesIn_append (left right : List Text) : occurrencesIn pattern (left ++ right) =
    occurrencesIn pattern left + occurrencesIn pattern right := by
  induction left with
  | nil => rw [List.nil_append, occurrencesIn, Nat.zero_add]
  | cons first rest ih => rw [List.cons_append, occurrencesIn, ih, occurrencesIn, Nat.add_assoc]

theorem occurrencesIn_map_congr {α : Type} {items : List α} {f g : α → Text}
    (same : ∀ item ∈ items, occurrences pattern (f item) = occurrences pattern (g item)) :
    occurrencesIn pattern (items.map f) = occurrencesIn pattern (items.map g) := by
  induction items with
  | nil => rfl
  | cons first rest ih =>
    rw [List.map_cons, List.map_cons, occurrencesIn, occurrencesIn, same first (.head _),
      ih fun item inside => same item (.tail _ inside)]

theorem occurrencesIn_eq_zero {texts : List Text} (each : ∀ text ∈ texts, isFree pattern text = true) :
    occurrencesIn pattern texts = 0 := by
  induction texts with
  | nil => rfl
  | cons first rest ih =>
    rw [occurrencesIn, occurrences_of_isFree (each first (.head _)),
      ih fun text inside => each text (.tail _ inside)]

/-- Joined by such a point, texts have the occurrences that each of them has. -/
theorem occurrences_join {point : CodePoint} (foreign : point ∉ pattern) (nonempty : pattern ≠ [])
    (parts : List Text) : occurrences pattern (join [point] parts) = occurrencesIn pattern parts := by
  induction parts with
  | nil => rfl
  | cons first rest ih =>
    cases rest with
    | nil => simp [join, occurrencesIn]
    | cons second rest =>
      rw [join] at ih ⊢
      rw [List.intercalate_cons_cons, List.append_assoc, List.singleton_append,
        occurrences_separated foreign nonempty, ih]
      rfl

/-! ### The first occurrence -/

/-- An occurrence in front of any text does not begin in a free text. -/
theorem length_le_of_isFree {front behind before after : Text} (free : isFree pattern front = true)
    (split : front ++ behind = before ++ (pattern ++ after)) : front.length ≤ before.length := by
  induction front generalizing before with
  | nil => exact Nat.zero_le _
  | cons first rest ih =>
    cases before with
    | nil =>
      have begins : pattern <+: first :: rest ++ behind := split ▸ List.prefix_append pattern after
      exact absurd begins (not_prefix_append free behind)
    | cons other before =>
      exact Nat.succ_le_succ (ih (isFree_cons.mp free).2 (List.cons.inj split).2)

/-- Behind a free text the pattern is found where it stands. -/
theorem dropInfix?_of_isFree {front : Text} (free : isFree pattern front = true) (behind : Text) :
    (front ++ pattern ++ behind).dropInfix? pattern = some (front, behind) := by
  refine List.dropInfix?_eq_some_iff.mpr ⟨⟨pattern, rfl, beq_self_eq_true _⟩, ?_⟩
  intro before found after split same
  obtain rfl := eq_of_beq same
  rw [List.append_assoc, List.append_assoc] at split
  exact length_le_of_isFree free split

/-- The pattern does not occur before its first occurrence. -/
theorem not_infix_of_dropInfix? (nonempty : pattern ≠ []) {text front behind : Text}
    (found : text.dropInfix? pattern = some (front, behind)) : ¬ pattern <:+: front := by
  obtain ⟨⟨written, split, same⟩, first⟩ := List.dropInfix?_eq_some_iff.mp found
  obtain rfl := eq_of_beq same
  rintro ⟨before, after, rfl⟩
  have shorter := first before written (after ++ written ++ behind) (by simp [split]) (beq_self_eq_true _)
  have room := List.length_pos_iff.mpr nonempty
  rw [List.length_append, List.length_append] at shorter
  omega

end Pattern

end BlockPage.Text
