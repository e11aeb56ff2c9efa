/-
**Compiling a source.**

* `compile`: the blocks of a source, or all that is wrong with it: its length alone, else every lexical
  fault, else the first syntactic one.
* `compileScan_eq_ok_iff`, `compileScan_eq_error_iff`: which of them.
* `Compilation`: the outcome. `Compilation.blocks` is empty whenever `Compilation.errors` is not.
-/

import BlockPage.Layout.Lexer
import BlockPage.Layout.Reading

namespace BlockPage.Layout

/-- The blocks of a source or its faults. -/
abbrev Compilation := Except (List SourceError) (List Block)

namespace Compilation

/-- The compiled blocks. -/
def blocks : Compilation → List Block
  | .ok blocks => blocks
  | .error _ => []

/-- The faults. -/
def errors : Compilation → List SourceError
  | .ok _ => []
  | .error errors => errors

end Compilation

/-- The blocks of a scanned source or its faults. -/
def compileScan (scanned : Scan) : Compilation :=
  if scanned.errors.isEmpty then
    match readTokens scanned.tokens with
    | .ok blocks => .ok blocks
    | .error fault => .error [fault]
  else .error scanned.errors

theorem compileScan_eq_ok_iff {scanned : Scan} {blocks : List Block} :
    compileScan scanned = .ok blocks ↔
      scanned.errors = [] ∧ readTokens scanned.tokens = .ok blocks := by
  unfold compileScan
  constructor
  · intro compiled
    split at compiled
    · rename_i clean
      split at compiled
      · rename_i found read
        cases compiled
        exact ⟨List.isEmpty_iff.mp clean, read⟩
      · cases compiled
    · cases compiled
  · rintro ⟨clean, read⟩
    rw [if_pos (List.isEmpty_iff.mpr clean), read]

theorem compileScan_eq_error_iff {scanned : Scan} {errors : List SourceError} :
    compileScan scanned = .error errors ↔
      (scanned.errors ≠ [] ∧ errors = scanned.errors) ∨
        (scanned.errors = [] ∧
          ∃ error, readTokens scanned.tokens = .error error ∧ errors = [error]) := by
  unfold compileScan
  constructor
  · intro refused
    split at refused
    · rename_i clean
      split at refused
      · cases refused
      · rename_i error read
        cases refused
        exact .inr ⟨List.isEmpty_iff.mp clean, error, read, rfl⟩
    · rename_i faulty
      cases refused
      exact .inl ⟨fun clean => faulty (List.isEmpty_iff.mpr clean), rfl⟩
  · rintro (⟨faulty, rfl⟩ | ⟨clean, error, read, rfl⟩)
    · rw [if_neg (by rwa [List.isEmpty_iff])]
    · rw [if_pos (List.isEmpty_iff.mpr clean), read]

/-- The blocks of a source of at most the given length, or its faults. -/
def compile (source : Text) (limit : Option Int) : Compilation :=
  match limit with
  | none => compileScan (scan source)
  | some most =>
    if most < source.length then .error [⟨.tooLong source.length (Number.Integer.text most), none⟩]
    else compileScan (scan source)

end BlockPage.Layout
