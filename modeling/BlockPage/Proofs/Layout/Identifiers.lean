/-
**An identifier is what the scanner reads as one.**

Whether a text is an identifier is told from its code points alone, without scanning. Writing decides by it
which keys need quotes, and reading goes by the scanner, so the two have to agree on every text.

* `scan_identifier`: an identifier as a whole source.
* `isIdentifier_of_token`: the names that any source has tokens for, also one with faults.
* `isIdentifier_tfae`: the agreement.
-/

import BlockPage.Proofs.Layout.Totality
import BlockPage.Proofs.Layout.WrittenLines
import Mathlib.Tactic.TFAE

namespace BlockPage.Layout

open CodePoint

variable {name : Text}

/-- No newline stands in an identifier, so it ends in the first line. -/
theorem past_identifier (isName : isIdentifier name = true) :
    Position.start.past name = ⟨1, 1 + name.length⟩ := by
  have absent : newline ∉ name := (isVisible_identifier isName).newline_not_mem
  have line : name.rtakeWhile (· ≠ newline) = name := by
    refine List.rtakeWhile_eq_self_iff.mpr fun point inside => ?_
    rw [decide_eq_true_eq]
    rintro rfl
    exact absent inside
  rw [past_start_eq, List.count_eq_zero_of_not_mem absent, line]

/-- An identifier as a whole source is one token. -/
theorem scan_identifier (isName : isIdentifier name = true) :
    scan name = ⟨[⟨.identifier name, .start⟩], ⟨1, 1 + name.length⟩, []⟩ := by
  obtain ⟨word, free⟩ := isIdentifier_iff.mp isName
  obtain ⟨first, rest, same, read⟩ := segment_of_isSegment (.identifier word free) .start
  rw [List.append_nil] at read
  rw [scan, ← past_identifier isName, same, scanFrom_step, read, scanFrom_nil, same]
  rfl

/-- The name of an identifier that is scanned is one, whatever else the source holds. -/
theorem isIdentifier_of_token {source : Text} {token : Token} (inside : token ∈ (scan source).tokens)
    (named : token.lexeme = .identifier name) : isIdentifier name = true := by
  have writable := writable_of_scan source token inside
  rw [named] at writable
  exact writable

/-- **Identifiers are what is scanned as one.** A text is an identifier just when scanning it has no fault
and gives one token, at the start, which is an identifier with the text for its name; the source then ends
right behind it. No other names than these have tokens in any source. -/
theorem isIdentifier_tfae (name : Text) : List.TFAE [
    isIdentifier name = true,
    (scan name).errors = [] ∧ (scan name).tokens = [⟨.identifier name, .start⟩],
    scan name = ⟨[⟨.identifier name, .start⟩], ⟨1, 1 + name.length⟩, []⟩,
    ∃ source, ∃ token ∈ (scan source).tokens, token.lexeme = .identifier name] := by
  tfae_have 1 → 3 := scan_identifier
  tfae_have 3 → 2 := fun scanned => by rw [scanned]; exact ⟨rfl, rfl⟩
  tfae_have 2 → 4 := fun ⟨_, alone⟩ => ⟨name, _, by rw [alone]; exact .head _, rfl⟩
  tfae_have 4 → 1 := fun ⟨_, _, inside, named⟩ => isIdentifier_of_token inside named
  tfae_finish

end BlockPage.Layout
