/-
**What the grammar of documents derives is read.**

A name may still get a body, and a key may still get a value, so what has been read is often open. An
open state means the same as the state that it settles to: the block is placed, the entry is bound.

* `Reading.settle`, `Reading.step_settle`, `Reading.finish_settle`: a settled state goes on as the open
  one does, unless the next token opens the body or is the colon.
* `run_entries`, `run_declaration`, `run_declarations`: what the grammar derives is read, up to settling.
* `readTokens_of_document`: whole documents.
-/

import BlockPage.Proofs.Layout.Grammar
import BlockPage.Proofs.Traversal

namespace BlockPage.Layout

theorem key?_eq_some_iff {lexeme : Lexeme} {key : Text} :
    lexeme.key? = some key ↔ IsKey lexeme key := by
  constructor
  · intro found
    cases lexeme <;> cases found <;> constructor
  · rintro (_ | _) <;> rfl

theorem value?_eq_some_iff {lexeme : Lexeme} {value : Scalar} :
    lexeme.value? = some value ↔ IsValue lexeme value := by
  constructor
  · intro found
    cases lexeme <;> cases found <;> constructor
  · rintro (_ | _ | _ | _ | _) <;> rfl

/-! ### Open and settled states -/

namespace Reading

/-- The state with what is still open taken as complete: a name without a body, a key without a
value. -/
def settle (reading : Reading) : Reading :=
  match reading.awaiting with
  | .body name => reading.place name ∅
  | .colon body key => reading.await (.entry (body.bind key (.boolean true)) true)
  | _ => reading

/-- The token opens no body and is no colon. -/
def Settles (lexeme : Lexeme) : Prop := lexeme ≠ .colon ∧ ∀ bracket, lexeme ≠ .opening bracket

/-- A token that neither opens the body nor is the colon settles the state before it is read. -/
theorem step_settle (reading : Reading) (token : Token) (settles : Settles token.lexeme) :
    reading.settle.step token = reading.step token := by
  obtain ⟨wrapper, blocks, awaiting⟩ := reading
  cases awaiting with
  | body name =>
    unfold step
    dsimp only [settle, place]
    split
    · rename_i bracket same
      exact absurd same (settles.2 bracket)
    · rfl
  | colon body key =>
    unfold step
    dsimp only [settle, await]
    rw [if_neg settles.1]
    rfl
  | _ => rfl

theorem settle_wrapper (reading : Reading) : reading.settle.wrapper = reading.wrapper := by
  obtain ⟨wrapper, blocks, awaiting⟩ := reading
  cases awaiting <;> rfl

theorem eq_await {reading : Reading} {next : Awaiting} (awaiting : reading.awaiting = next) :
    reading = reading.await next := by
  rw [await, ← awaiting]

theorem finish_settle (reading : Reading) : reading.settle.finish = reading.finish := by
  obtain ⟨wrapper, blocks, awaiting⟩ := reading
  cases awaiting <;> rfl

end Reading

/-! ### Runs -/

/-- The state behind some tokens. -/
def run (reading : Reading) (tokens : List Token) : Except SourceError Reading :=
  tokens.foldlM Reading.step reading

theorem run_nil (reading : Reading) : run reading [] = .ok reading := rfl

theorem run_cons {reading next : Reading} {token : Token} (stepped : reading.step token = .ok next)
    (tokens : List Token) : run reading (token :: tokens) = run next tokens := by
  rw [run, List.foldlM_cons, stepped]
  rfl

/-- A run is a step and a run behind it. -/
theorem run_cons_eq_ok_iff {reading last : Reading} {token : Token} {tokens : List Token} :
    run reading (token :: tokens) = .ok last ↔
      ∃ next, reading.step token = .ok next ∧ run next tokens = .ok last := by
  rw [run, List.foldlM_cons]
  exact bind_eq_ok_iff

theorem run_append {reading between : Reading} {first : List Token}
    (read : run reading first = .ok between) (second : List Token) :
    run reading (first ++ second) = run between second := by
  rw [run, List.foldlM_append]
  rw [run] at read
  rw [read]
  rfl

/-! ### What is derived is read -/

section Complete

variable {base reading : Reading} {body : Body} {comma : Bool} {token : Token} {key : Text}

theorem step_key (isKey : IsKey token.lexeme key)
    (settled : reading.settle = base.await (.entry body comma)) :
    reading.step token = .ok (base.await (.colon body key)) := by
  obtain ⟨lexeme, position⟩ := token
  dsimp only at isKey
  have settles : Reading.Settles lexeme := by
    cases isKey <;> exact ⟨(fun same => nomatch same), fun _ same => nomatch same⟩
  have found := key?_eq_some_iff.mpr isKey
  have open' : ¬ lexeme = .closing body.bracket := by
    cases isKey <;> exact fun same => nomatch same
  have other : ¬ (comma && lexeme = .comma) = true := by
    cases isKey <;> simp
  rw [← Reading.step_settle reading ⟨lexeme, position⟩ settles, settled]
  show Reading.stepEntry _ body comma ⟨lexeme, position⟩ = _
  unfold Reading.stepEntry
  dsimp only
  rw [if_neg open', if_neg other, found]
  rfl

theorem step_comma (isComma : token.lexeme = .comma)
    (settled : reading.settle = base.await (.entry body true)) :
    reading.step token = .ok (base.await (.entry body false)) := by
  rw [← Reading.step_settle reading token ⟨by simp [isComma], by simp [isComma]⟩, settled]
  show Reading.stepEntry _ body true token = _
  unfold Reading.stepEntry
  rw [isComma, if_neg (fun same => nomatch same), if_pos (by rfl)]
  rfl

/-- The bracket that fits ends the body, and the block is placed. -/
theorem step_closing (closes : token.lexeme = .closing body.bracket)
    (settled : reading.settle = base.await (.entry body comma)) :
    reading.step token = .ok (base.place body.name body.config) := by
  rw [← Reading.step_settle reading token ⟨by simp [closes], by simp [closes]⟩, settled]
  show Reading.stepEntry _ body comma token = _
  unfold Reading.stepEntry
  rw [if_pos closes]
  rfl

/-- Where a declaration may begin, a name begins one. -/
theorem step_name {name : Text} (isName : token.lexeme = .identifier name)
    (settled : reading.settle = base.await .declaration) :
    reading.step token = .ok (base.await (.body name)) := by
  rw [← Reading.step_settle reading token ⟨by simp [isName], by simp [isName]⟩, settled]
  show Reading.stepDeclaration _ token = _
  unfold Reading.stepDeclaration
  rw [isName]
  rfl

/-- The brace of the wrapper ends the document when there is one. -/
theorem step_unwrap (closes : token.lexeme = .closing .brace) (wrapped : base.wrapper.isSome = true)
    (settled : reading.settle = base.await .declaration) :
    reading.step token = .ok (base.await .nothing) := by
  rw [← Reading.step_settle reading token ⟨by simp [closes], by simp [closes]⟩, settled]
  show Reading.stepDeclaration _ token = _
  unfold Reading.stepDeclaration
  rw [closes]
  exact if_pos (Bool.and_eq_true_iff.mpr ⟨rfl, wrapped⟩)

/-- A bracket behind the name opens the body and decides which one closes it. -/
theorem step_opening {name : Text} {bracket : Bracket} (opens : token.lexeme = .opening bracket) :
    (base.await (.body name)).step token =
      .ok (base.await (.entry ⟨name, bracket, token.position, ∅⟩ false)) := by
  unfold Reading.step
  dsimp only [Reading.await]
  rw [opens]

theorem step_colon (isColon : token.lexeme = .colon) :
    (base.await (.colon body key)).step token =
      .ok (base.await (.value body key token.position)) := by
  show (if token.lexeme = .colon then _ else _) = _
  rw [if_pos isColon]
  rfl

theorem step_value {colon : Position} {value : Scalar} (isValue : IsValue token.lexeme value) :
    (base.await (.value body key colon)).step token =
      .ok (base.await (.entry (body.bind key value) true)) := by
  unfold Reading.step
  dsimp only [Reading.await]
  rw [value?_eq_some_iff.mpr isValue]

/-- The body with more entries. -/
def Body.bindAll (body : Body) (entries : List (Text × Scalar)) : Body :=
  { body with config := body.config.insertAll entries }

/-- An entry is read and bound. -/
theorem run_entry {tokens : List Token} {entry : Text × Scalar}
    (derived : IsEntry (tokens.map Token.lexeme) entry)
    (settled : reading.settle = base.await (.entry body comma)) :
    ∃ next, run reading tokens = .ok next ∧
      next.settle = base.await (.entry (body.bindAll [entry]) true) := by
  generalize same : tokens.map Token.lexeme = written at derived
  cases derived with
  | alone isKey =>
    obtain ⟨token, rfl, rfl⟩ := List.map_eq_singleton_iff.mp same
    rw [run_cons (step_key isKey settled)]
    exact ⟨_, rfl, rfl⟩
  | @valued first last key value isKey isValue =>
    obtain ⟨token, tokens, rfl, rfl, behind⟩ := List.map_eq_cons_iff.mp same
    obtain ⟨colon, tokens, rfl, isColon, behind⟩ := List.map_eq_cons_iff.mp behind
    obtain ⟨valued, rfl, rfl⟩ := List.map_eq_singleton_iff.mp behind
    rw [run_cons (step_key isKey settled), run_cons (step_colon isColon),
      run_cons (step_value isValue)]
    exact ⟨_, rfl, rfl⟩

/-- A comma behind an entry, if there is one, changes nothing else. -/
theorem run_optionalComma {tokens : List Token} (optional : OptionalComma (tokens.map Token.lexeme))
    (settled : reading.settle = base.await (.entry body true)) :
    ∃ next comma, run reading tokens = .ok next ∧
      next.settle = base.await (.entry body comma) := by
  rcases optional with absent | one
  · rw [List.map_eq_nil_iff.mp absent]
    exact ⟨reading, true, rfl, settled⟩
  · obtain ⟨token, rfl, isComma⟩ := List.map_eq_singleton_iff.mp one
    rw [run_cons (step_comma isComma settled)]
    exact ⟨_, false, rfl, rfl⟩

/-- Entries are read and bound in order. -/
theorem run_entries {written : List Lexeme} {entries : List (Text × Scalar)}
    (derived : IsEntries written entries) :
    ∀ {tokens : List Token} {reading : Reading} {body : Body} {comma : Bool},
      tokens.map Token.lexeme = written → reading.settle = base.await (.entry body comma) →
      ∃ next comma, run reading tokens = .ok next ∧
        next.settle = base.await (.entry (body.bindAll entries) comma) := by
  induction derived with
  | last entry optional =>
    intro tokens reading body comma same settled
    obtain ⟨first, second, rfl, rfl, rfl⟩ := List.map_eq_append_iff.mp same
    obtain ⟨between, read, settled⟩ := run_entry entry settled
    rw [run_append read]
    exact run_optionalComma optional settled
  | more entry optional _ ih =>
    intro tokens reading body comma same settled
    obtain ⟨first, tokens, rfl, rfl, behind⟩ := List.map_eq_append_iff.mp same
    obtain ⟨second, rest, rfl, rfl, last⟩ := List.map_eq_append_iff.mp behind
    obtain ⟨between, read, settled⟩ := run_entry entry settled
    obtain ⟨behind, comma, passed, settled⟩ := run_optionalComma optional settled
    rw [run_append read, run_append passed]
    exact ih last settled

/-- The state with more finished blocks. -/
def Reading.placeAll (reading : Reading) (blocks : List Block) : Reading :=
  ⟨reading.wrapper, blocks.reverse ++ reading.blocks, .declaration⟩

/-- A declaration is read and placed. -/
theorem run_declaration {tokens : List Token} {block : Block}
    (derived : IsDeclaration (tokens.map Token.lexeme) block)
    (settled : reading.settle = base.await .declaration) :
    ∃ next, run reading tokens = .ok next ∧ next.settle = base.placeAll [block] := by
  generalize same : tokens.map Token.lexeme = written at derived
  cases derived with
  | bare name =>
    obtain ⟨token, rfl, isName⟩ := List.map_eq_singleton_iff.mp same
    rw [run_cons (step_name isName settled)]
    exact ⟨_, rfl, rfl⟩
  | empty name bracket =>
    obtain ⟨first, tokens, rfl, isName, behind⟩ := List.map_eq_cons_iff.mp same
    obtain ⟨second, tokens, rfl, opens, behind⟩ := List.map_eq_cons_iff.mp behind
    obtain ⟨third, rfl, closes⟩ := List.map_eq_singleton_iff.mp behind
    rw [run_cons (step_name isName settled), run_cons (step_opening opens),
      run_cons (step_closing closes rfl)]
    exact ⟨_, rfl, rfl⟩
  | @body name bracket written entries config entries' binds =>
    obtain ⟨first, tokens, rfl, isName, behind⟩ := List.map_eq_cons_iff.mp same
    obtain ⟨second, tokens, rfl, opens, behind⟩ := List.map_eq_cons_iff.mp behind
    obtain ⟨inside, last, rfl, within, closing⟩ := List.map_eq_append_iff.mp behind
    obtain ⟨third, rfl, closes⟩ := List.map_eq_singleton_iff.mp closing
    rw [run_cons (step_name isName settled), run_cons (step_opening opens)]
    have opened : (base.await (.entry ⟨name, bracket, second.position, ∅⟩ false)).settle =
        base.await (.entry ⟨name, bracket, second.position, ∅⟩ false) := rfl
    obtain ⟨behind, comma, read, settled⟩ := run_entries entries' within opened
    rw [run_append read, run_cons (step_closing closes settled), binds.eq_ofList]
    exact ⟨_, rfl, rfl⟩

/-- Declarations are read and placed in order. -/
theorem run_declarations {written : List Lexeme} {blocks : List Block}
    (derived : IsDeclarations written blocks) :
    ∀ {tokens : List Token} {reading : Reading}, tokens.map Token.lexeme = written →
      reading.settle.awaiting = .declaration →
      ∃ next, run reading tokens = .ok next ∧ next.settle = reading.settle.placeAll blocks := by
  induction derived with
  | nil =>
    intro tokens reading same settled
    rw [List.map_eq_nil_iff.mp same]
    exact ⟨reading, rfl, by rw [Reading.placeAll, ← settled]; rfl⟩
  | @cons written rest block blocks declaration _ ih =>
    intro tokens reading same settled
    obtain ⟨first, rest, rfl, rfl, behind⟩ := List.map_eq_append_iff.mp same
    obtain ⟨between, read, placed⟩ := run_declaration declaration (Reading.eq_await settled)
    obtain ⟨next, readRest, placedRest⟩ := ih behind (by rw [placed]; rfl)
    refine ⟨next, by rw [run_append read, readRest], ?_⟩
    rw [placedRest, placed]
    simp [Reading.placeAll]

/-- The wrapper is found by its two lexemes. -/
theorem wrapper?_eq_some {tokens rest : List Token} {opened : Position}
    (found : wrapper? tokens = some (opened, rest)) :
    tokens.map Token.lexeme = wrapperStart ++ rest.map Token.lexeme := by
  unfold wrapper? at found
  split at found
  · split at found
    · rename_i first second _ both
      cases found
      obtain ⟨isName, opens⟩ : first.lexeme = .identifier layoutWord ∧
          second.lexeme = .opening .brace := by simpa using both
      rw [List.map_cons, List.map_cons, isName, opens]
      rfl
    · cases found
  · cases found

theorem wrapper?_eq_none {tokens : List Token} (found : wrapper? tokens = none) :
    ¬ wrapperStart <+: tokens.map Token.lexeme := by
  rintro ⟨behind, same⟩
  obtain ⟨first, tokens, rfl, isName, same⟩ := List.map_eq_cons_iff.mp same.symm
  obtain ⟨second, rest, rfl, opens, rfl⟩ := List.map_eq_cons_iff.mp same
  unfold wrapper? at found
  dsimp only at found
  rw [isName, opens] at found
  cases found

/-- A derived document is read. -/
theorem readTokens_of_document {tokens : List Token} {blocks : List Block}
    (derived : IsDocument (tokens.map Token.lexeme) blocks) : readTokens tokens = .ok blocks := by
  generalize same : tokens.map Token.lexeme = written at derived
  unfold readTokens
  cases derived with
  | @wrapped written blocks declarations =>
    cases found : wrapper? tokens with
    | none => exact absurd ⟨_, same.symm⟩ (wrapper?_eq_none found)
    | some inside =>
      obtain ⟨opened, inside⟩ := inside
      rw [wrapper?_eq_some found, List.append_cancel_left_eq] at same
      obtain ⟨body, last, rfl, within, closing⟩ := List.map_eq_append_iff.mp same
      obtain ⟨closer, rfl, closes⟩ := List.map_eq_singleton_iff.mp closing
      have ready : (Reading.start (some opened)).settle.awaiting = .declaration := rfl
      obtain ⟨next, read, placed⟩ := run_declarations declarations within ready
      have closed : next.step closer = .ok (next.settle.await .nothing) := by
        rw [← Reading.step_settle next closer ⟨by simp [closes], by simp [closes]⟩, placed]
        show Reading.stepDeclaration _ closer = _
        unfold Reading.stepDeclaration
        rw [closes]
        rfl
      dsimp only
      rw [← run, run_append read, run_cons closed, run_nil, placed]
      show Except.ok (blocks.reverse ++ []).reverse = _
      rw [List.append_nil, List.reverse_reverse]
  | plain unwrapped declarations =>
    cases found : wrapper? tokens with
    | some inside =>
      rw [← same, wrapper?_eq_some found] at unwrapped
      exact absurd (List.prefix_append _ _) unwrapped
    | none =>
      have ready : (Reading.start none).settle.awaiting = .declaration := rfl
      obtain ⟨next, read, placed⟩ := run_declarations declarations same ready
      dsimp only
      rw [← run, read]
      show next.finish = _
      rw [← Reading.finish_settle, placed]
      show Except.ok (blocks.reverse ++ []).reverse = _
      rw [List.append_nil, List.reverse_reverse]

end Complete

end BlockPage.Layout
