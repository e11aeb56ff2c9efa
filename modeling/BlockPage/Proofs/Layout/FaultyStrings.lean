/-
**Strings with faults are scanned as the grammar has them.**

An escape that means nothing does not end a string, so every string goes on up to its quote or to the end
of the source.

* `beginsQuad_iff`, `BeginsQuad.of_append`: the digits of a code point.
* `exists_faultyBody`: every source behind a quote begins with the body of a string.
* `FaultyBody.within`: where its faults are.
* `scanString_badEscape`, `scanString_badUnicode`: the steps of the scanner on a fault;
  `scanString_faultyBody`: the whole body.
-/

import BlockPage.Proofs.Layout.FaultyGrammar
import BlockPage.Proofs.Layout.Numerals
import BlockPage.Proofs.Layout.Strings

namespace BlockPage.Layout

open CodePoint Number

section Strings

theorem BeginsQuad.append {text : Text} (begins : BeginsQuad text) (following : Text) :
    BeginsQuad (text ++ following) := by
  refine ⟨Nat.le_trans begins.1 (by simp), ?_⟩
  rw [List.take_append_of_le_length begins.1]
  exact begins.2

/-- The four digits do not go on into what begins with none. -/
theorem BeginsQuad.of_append {text following : Text} (stops : Stops isHexDigit following)
    (begins : BeginsQuad (text ++ following)) : BeginsQuad text := by
  obtain ⟨length, digits⟩ := begins
  rcases Nat.lt_or_ge text.length 4 with short | long
  · cases following with
    | nil => simp at length; omega
    | cons point rest =>
      have inside : point ∈ (text ++ point :: rest).take 4 := by
        rw [List.take_append, show 4 - text.length = 3 - text.length + 1 by omega,
          List.take_succ_cons]
        exact List.mem_append_right _ (.head _)
      have digit := digits point inside
      rw [stops_cons_iff.mp stops] at digit
      cases digit
  · rw [List.take_append_of_le_length long] at digits
    exact ⟨long, digits⟩

theorem beginsQuad_iff {text : Text} : BeginsQuad text ↔ ∃ first second third fourth rest,
    text = first :: second :: third :: fourth :: rest ∧
      ∀ digit ∈ [first, second, third, fourth], isHexDigit digit = true := by
  constructor
  · rintro ⟨length, digits⟩
    match text with
    | first :: second :: third :: fourth :: rest => exact ⟨_, _, _, _, rest, rfl, digits⟩
    | [] | [_] | [_, _] | [_, _, _] => simp at length
  · rintro ⟨first, second, third, fourth, rest, rfl, digits⟩
    exact ⟨by simp, digits⟩

/-- What follows the body of a string: its quote, or the end of the source, perhaps with a backslash
before it. -/
inductive EndsBody (quote : CodePoint) : Text → Prop
  | closed (following : Text) : EndsBody quote (quote :: following)
  | unclosed : EndsBody quote []
  | escaping : EndsBody quote [backslash]

/-- A string goes on up to its quote or to the end of the source. -/
theorem exists_faultyBody (quote : CodePoint) (source : Text) :
    ∃ body decoded faults ending, FaultyBody quote body decoded faults ∧
      source = body ++ ending ∧ EndsBody quote ending := by
  -- on the length, as escapes are longer than one code point
  induction length : source.length using Nat.strongRecOn generalizing source with
  | _ bound ih =>
    match source with
    | [] => exact ⟨[], [], [], [], .nil, rfl, .unclosed⟩
    | point :: rest =>
      by_cases closes : point = quote
      · exact ⟨[], [], [], point :: rest, .nil, rfl, closes ▸ .closed rest⟩
      by_cases plain : point ≠ backslash
      · obtain ⟨body, decoded, faults, ending, isBody, rfl, ends⟩ :=
          ih rest.length (by simp [← length]) rest rfl
        exact ⟨_, _, _, ending, .plain closes plain isBody, rfl, ends⟩
      obtain rfl := Decidable.of_not_not plain
      match rest with
      | [] => exact ⟨[], [], [], [backslash], .nil, rfl, .escaping⟩
      | letter :: tail =>
        by_cases quad : letter = letterU ∧ BeginsQuad tail
        · obtain ⟨rfl, begins⟩ := quad
          obtain ⟨first, second, third, fourth, remaining, rfl, digits⟩ := beginsQuad_iff.mp begins
          obtain ⟨body, decoded, faults, ending, isBody, rfl, ends⟩ :=
            ih remaining.length (by simp only [← length, List.length_cons]; omega) remaining rfl
          exact ⟨_, _, _, ending, .unicode digits isBody, rfl, ends⟩
        obtain ⟨body, decoded, faults, ending, isBody, rfl, ends⟩ :=
          ih tail.length (by rw [← length, List.length_cons, List.length_cons]; omega) tail rfl
        by_cases listed : letter ∈ escapes.map Prod.fst
        · obtain ⟨⟨_, meant⟩, inside, rfl⟩ := List.mem_map.mp listed
          exact ⟨_, _, _, ending, .escape inside isBody, rfl, ends⟩
        by_cases other : letter ≠ letterU
        · exact ⟨_, _, _, ending, .badEscape listed other isBody, rfl, ends⟩
        obtain rfl := Decidable.of_not_not other
        have bad : ¬ BeginsQuad body := fun begins => quad ⟨rfl, begins.append ending⟩
        exact ⟨_, _, _, ending, .badUnicode bad isBody, rfl, ends⟩

variable {opened position : Position} {quote : CodePoint} {body decoded : Text}
  {faults : List (Found Fault)}

theorem FaultyBody.within (isBody : FaultyBody quote body decoded faults) :
    ∀ found ∈ faults, found.offset < body.length := by
  induction isBody with
  | nil => exact List.forall_mem_nil _
  | @plain point _ _ _ _ _ _ ih => exact within_behind ih [point]
  | @escape letter _ _ _ _ _ _ ih => exact within_behind ih [backslash, letter]
  | @unicode first second third fourth _ _ _ _ _ ih =>
    exact within_behind ih [backslash, letterU, first, second, third, fourth]
  | @badEscape letter _ _ _ _ _ _ ih =>
    exact List.forall_mem_cons.mpr ⟨Nat.zero_lt_succ _, within_behind ih [backslash, letter]⟩
  | badUnicode _ _ ih =>
    exact List.forall_mem_cons.mpr ⟨Nat.zero_lt_succ _, within_behind ih [backslash, letterU]⟩

/-- An escape that is not listed is reported, and its letter is kept. -/
theorem scanString_badEscape {letter : CodePoint} (plain : quote ≠ backslash)
    (unlisted : letter ∉ escapes.map Prod.fst) (other : letter ≠ letterU) (position : Position)
    (decoded : Text) (errors : List SourceError) (rest : Text) :
    scanString opened quote position decoded errors (backslash :: letter :: rest) =
      scanString opened quote (position.past [backslash, letter]) (letter :: decoded)
        (.located position (.badEscape letter) :: errors) rest := by
  have unmeant : simpleEscape? letter = none := by
    rw [Option.eq_none_iff_forall_ne_some]
    intro point meant
    exact unlisted (List.mem_map.mpr ⟨_, simpleEscape?_eq_some_iff.mp meant, rfl⟩)
  rw [scanString.eq_def]
  simp [plain.symm, unmeant, other, Position.past_cons, Position.past_nil]

/-- An escape without its four digits is reported and dropped, and the body goes on behind its letter. -/
theorem scanString_badUnicode {rest : Text} (plain : quote ≠ backslash) (bad : ¬ BeginsQuad rest)
    (position : Position) (decoded : Text) (errors : List SourceError) :
    scanString opened quote position decoded errors (backslash :: letterU :: rest) =
      scanString opened quote (position.past [backslash, letterU]) decoded
        (.located position .badUnicodeEscape :: errors) rest := by
  have unlisted : simpleEscape? letterU = none := by decide
  rw [scanString.eq_def]
  simp only [plain.symm, unlisted, if_false, ne_eq, not_true_eq_false]
  split
  · rename_i first second third fourth remaining
    have refused : hexQuad? first second third fourth = none := by
      rw [Option.eq_none_iff_forall_ne_some]
      intro point meant
      exact bad (beginsQuad_iff.mpr ⟨_, _, _, _, _, rfl, (hexQuad?_eq_some_iff.mp meant).1⟩)
    rw [refused]
    rfl
  · rfl

/-- **The scanner reads a faulty body as the grammar tells**, and goes on behind it. -/
theorem scanString_faultyBody (isBody : FaultyBody quote body decoded faults)
    (plain : quote ≠ backslash) {ending : Text} (stops : Stops isHexDigit ending)
    (position : Position) (before : Text) (errors : List SourceError) :
    scanString opened quote position before errors (body ++ ending) =
      scanString opened quote (position.past body) (decoded.reverse ++ before)
        ((faults.map (Found.error position body)).reverse ++ errors) ending := by
  induction isBody generalizing position before errors with
  | nil => rfl
  | @plain point body _ faults other unescaped _ ih =>
    rw [List.cons_append, scanString_plain other unescaped, ih,
      show position.after point = position.past [point] from rfl, ← map_error_behind]
    simp [Position.past_cons, Position.past_nil]
  | @escape letter point body _ faults listed _ ih =>
    rw [List.cons_append, List.cons_append,
      scanString_escape plain (simpleEscape?_eq_some_iff.mpr listed), ih, ← map_error_behind]
    simp [Position.past_cons, Position.past_nil]
  | unicode digits _ ih =>
    simp only [List.cons_append]
    rw [scanString_unicode plain (hexQuad?_eq_some_iff.mpr ⟨digits, rfl⟩), ih, ← map_error_behind]
    simp [Position.past_cons, Position.past_nil]
  | badEscape unlisted other _ ih =>
    rw [List.cons_append, List.cons_append, scanString_badEscape plain unlisted other, ih,
      ← map_error_behind]
    simp [Position.past_cons, Position.past_nil, error_start]
  | badUnicode bad _ ih =>
    rw [List.cons_append, List.cons_append,
      scanString_badUnicode plain (fun begins => bad (begins.of_append stops)), ih,
      ← map_error_behind]
    simp [Position.past_cons, Position.past_nil, error_start]

end Strings

end BlockPage.Layout
