/-
**Strings and comments are scanned as the grammar has them.**

Both scanners stop at the first place where the segment may end. On an allowed body they take just that
body; what they take without a fault is an allowed body.

* `scanString_of_body`, `body_of_scanString`: strings; `scanString_close`, `scanString_plain`,
  `scanString_escape`, `scanString_unicode` are the steps of the scanner on an allowed body.
* `errors_scanString`: a fault that has been found is not forgotten.
* `skipComment_of_content`, `content_of_skipComment`: block comments.
-/

import BlockPage.Proofs.Layout.Grammar
import Mathlib.Tactic.SplitIfs

namespace BlockPage.Layout

open CodePoint Number

/-! ### Strings -/

section Strings

variable {opened position : Position} {quote : CodePoint} {body decoded following : Text}

theorem simpleEscape?_eq_some_iff {letter point : CodePoint} :
    simpleEscape? letter = some point ↔ (letter, point) ∈ escapes := by
  constructor
  · intro found
    unfold simpleEscape? at found
    split_ifs at found with self <;> cases found
    · rcases (by simpa using self) with (rfl | rfl) | rfl <;> decide
    all_goals subst_vars; decide
  · intro listed
    simp only [escapes, List.mem_cons, Prod.mk.injEq, List.not_mem_nil, or_false] at listed
    rcases listed with ⟨rfl, rfl⟩ | ⟨rfl, rfl⟩ | ⟨rfl, rfl⟩ | ⟨rfl, rfl⟩ | ⟨rfl, rfl⟩ | ⟨rfl, rfl⟩ |
      ⟨rfl, rfl⟩ <;> rfl

theorem hexQuad?_eq_some_iff {first second third fourth point : CodePoint} :
    hexQuad? first second third fourth = some point ↔
      (∀ digit ∈ [first, second, third, fourth], isHexDigit digit = true) ∧
        point = ofDigits 16 ([first, second, third, fourth].map hexValue) := by
  rw [← List.all_eq_true, hexQuad?]
  split
  · rename_i digits
    rw [Option.some.injEq, eq_comm, and_iff_right digits]
  · rename_i digits
    exact ⟨fun found => (by cases found), fun both => absurd both.1 digits⟩

theorem scanString_close (position : Position) (decoded : Text) (errors : List SourceError)
    (rest : Text) :
    scanString opened quote position decoded errors (quote :: rest) =
      ⟨some (.string decoded.reverse), errors.reverse, position.after quote, rest⟩ := by
  rw [scanString.eq_def]
  simp

theorem scanString_plain {point : CodePoint} (other : point ≠ quote) (unescaped : point ≠ backslash)
    (position : Position) (decoded : Text) (errors : List SourceError) (rest : Text) :
    scanString opened quote position decoded errors (point :: rest) =
      scanString opened quote (position.after point) (point :: decoded) errors rest := by
  rw [scanString.eq_def]
  simp [other, unescaped]

/-- A backslash and a listed letter stand for one code point. -/
theorem scanString_escape {letter point : CodePoint} (plain : quote ≠ backslash)
    (meant : simpleEscape? letter = some point) (position : Position) (decoded : Text)
    (errors : List SourceError) (rest : Text) :
    scanString opened quote position decoded errors (backslash :: letter :: rest) =
      scanString opened quote (position.past [backslash, letter]) (point :: decoded) errors
        rest := by
  rw [scanString.eq_def]
  simp [plain.symm, meant, Position.past_cons, Position.past_nil]

/-- A backslash, the letter of code points and four digits stand for one code point. -/
theorem scanString_unicode {first second third fourth point : CodePoint} (plain : quote ≠ backslash)
    (meant : hexQuad? first second third fourth = some point) (position : Position)
    (decoded : Text) (errors : List SourceError) (rest : Text) :
    scanString opened quote position decoded errors
        (backslash :: letterU :: first :: second :: third :: fourth :: rest) =
      scanString opened quote
        (position.past [backslash, letterU, first, second, third, fourth]) (point :: decoded)
        errors rest := by
  have unlisted : simpleEscape? letterU = none := by decide
  rw [scanString.eq_def]
  simp [plain.symm, unlisted, meant, Position.past_cons, Position.past_nil]

/-- A string is read up to its closing quote. -/
theorem scanString_of_body (allowed : StringBody quote body decoded) (plain : quote ≠ backslash)
    (position : Position) (before : Text) (errors : List SourceError) :
    scanString opened quote position before errors (body ++ quote :: following) =
      ⟨some (.string (before.reverse ++ decoded)), errors.reverse,
        position.past (body ++ [quote]), following⟩ := by
  induction allowed generalizing position before with
  | nil =>
    rw [List.nil_append, scanString_close, List.append_nil]
    rfl
  | plain other unescaped _ ih =>
    rw [List.cons_append, scanString_plain other unescaped, ih, List.reverse_cons, List.append_assoc]
    rfl
  | escape listed _ ih =>
    simp only [List.cons_append]
    rw [scanString_escape plain (simpleEscape?_eq_some_iff.mpr listed), ih, List.reverse_cons,
      List.append_assoc]
    rfl
  | unicode digits _ ih =>
    simp only [List.cons_append]
    rw [scanString_unicode plain (hexQuad?_eq_some_iff.mpr ⟨digits, rfl⟩), ih, List.reverse_cons,
      List.append_assoc]
    rfl

/-- Faults that have been found stay. -/
theorem errors_scanString (opened : Position) (quote : CodePoint) (position : Position)
    (before : Text) (errors : List SourceError) (source : Text) :
    errors.reverse <+: (scanString opened quote position before errors source).errors := by
  fun_induction scanString opened quote position before errors source with
  | case1 => simp
  | case2 => exact List.prefix_rfl
  | case3 _ _ _ _ _ _ _ _ ih => exact ih
  | case4 => simp
  | case5 _ _ _ _ _ _ _ _ _ _ _ _ ih => exact ih
  | case7 _ _ _ _ _ _ _ _ _ _ _ _ _ _ _ _ _ _ ih => exact ih
  | _ =>
    rename_i ih
    exact List.IsPrefix.trans (by simp) ih

/-- No error is forgotten on the way to the end of a string. -/
theorem scanString_errors_ne_nil (opened : Position) (quote : CodePoint) (position : Position)
    (before : Text) (error : SourceError) (errors : List SourceError) (source : Text) :
    (scanString opened quote position before (error :: errors) source).errors ≠ [] := by
  intro clean
  have kept := errors_scanString opened quote position before (error :: errors) source
  rw [clean, List.prefix_nil] at kept
  simp at kept

/-- A string that is read without a fault is closed by its quote behind an allowed body. -/
theorem body_of_scanString {before : Text} {errors : List SourceError} {source : Text}
    (clean : (scanString opened quote position before errors source).errors = []) :
    ∃ body decoded, StringBody quote body decoded ∧
      source = body ++ quote :: (scanString opened quote position before errors source).rest ∧
      (scanString opened quote position before errors source).lexeme =
        some (.string (before.reverse ++ decoded)) := by
  fun_induction scanString opened quote position before errors source with
  | case1 => simp at clean
  | case2 => exact ⟨[], [], .nil, rfl, by rw [List.append_nil]⟩
  | case3 _ _ _ first _ _ other unescaped ih =>
    obtain ⟨body, decoded, allowed, same, read⟩ := ih clean
    refine ⟨first :: body, first :: decoded, .plain other unescaped allowed, ?_, ?_⟩
    · rw [List.cons_append, ← same]
    · rw [read, List.reverse_cons, List.append_assoc, List.singleton_append]
  | case4 => simp at clean
  | case5 _ _ _ first _ _ escaping letter _ _ point meant ih =>
    obtain ⟨body, decoded, allowed, same, read⟩ := ih clean
    have listed := simpleEscape?_eq_some_iff.mp meant
    refine ⟨first :: letter :: body, point :: decoded, ?_, ?_, ?_⟩
    · rw [Decidable.of_not_not escaping]
      exact .escape listed allowed
    · rw [List.cons_append, List.cons_append, ← same]
    · rw [read, List.reverse_cons, List.append_assoc, List.singleton_append]
  | case7 _ _ _ first _ _ escaping letter _ _ marked second third fourth fifth _ point meant ih =>
    obtain ⟨body, decoded, allowed, same, read⟩ := ih clean
    obtain ⟨digits, quad⟩ := hexQuad?_eq_some_iff.mp meant
    refine ⟨first :: letter :: second :: third :: fourth :: fifth :: body, point :: decoded, ?_, ?_, ?_⟩
    · rw [Decidable.of_not_not escaping, Decidable.of_not_not marked, quad]
      exact .unicode digits allowed
    · simp only [List.cons_append]
      rw [← same]
    · rw [read, List.reverse_cons, List.append_assoc, List.singleton_append]
  -- a fault on the way would still be there at the end
  | _ => exact (scanString_errors_ne_nil _ _ _ _ _ _ _ clean).elim

end Strings

/-! ### Comments -/

section Comments

theorem skipComment_cons {point : CodePoint} {rest : Text}
    (inside : ¬ [asterisk, slash] <+: point :: rest) (position : Position) :
    skipComment position (point :: rest) = skipComment (position.after point) rest := by
  rw [skipComment.eq_def]
  split
  · contradiction
  · rename_i same
    cases same
    exact absurd (by simp) inside
  · rename_i same
    cases same
    rfl

/-- A comment is skipped up to its first end. -/
theorem skipComment_of_content {content : Text} (inside : ¬ [asterisk, slash] <:+: content)
    (position : Position) (following : Text) :
    skipComment position (content ++ asterisk :: slash :: following) =
      some (position.past (content ++ [asterisk, slash]), following) := by
  induction content generalizing position with
  | nil => rfl
  | cons point content ih =>
    rw [List.infix_cons_iff, not_or] at inside
    have early : ¬ [asterisk, slash] <+: point :: (content ++ asterisk :: slash :: following) := by
      intro starts
      obtain ⟨rfl, second⟩ := List.cons_prefix_cons.mp starts
      cases content with
      | nil => exact absurd (List.cons_prefix_cons.mp second).1 (by decide)
      | cons next content =>
        rw [List.cons_append, List.cons_prefix_cons] at second
        rw [← second.1] at inside
        exact inside.1 (by simp)
    rw [List.cons_append, skipComment_cons early, ih inside.2]
    rfl

/-- What is skipped as a comment ends at its first end. -/
theorem content_of_skipComment {position behind : Position} {source following : Text}
    (found : skipComment position source = some (behind, following)) :
    ∃ content, ¬ [asterisk, slash] <:+: content ∧
      source = content ++ asterisk :: slash :: following := by
  induction source generalizing position with
  | nil => cases found
  | cons point source ih =>
    by_cases early : [asterisk, slash] <+: point :: source
    · obtain ⟨rest, same⟩ := early
      rw [← same] at found ⊢
      cases found
      exact ⟨[], by simp, rfl⟩
    · rw [skipComment_cons early] at found
      obtain ⟨content, inside, rfl⟩ := ih found
      refine ⟨point :: content, ?_, rfl⟩
      rw [List.infix_cons_iff, not_or]
      refine ⟨fun starts => early ?_, inside⟩
      exact starts.trans (by simp)

end Comments

end BlockPage.Layout
