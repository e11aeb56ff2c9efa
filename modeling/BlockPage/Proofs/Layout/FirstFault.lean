/-
**The fault of a document is its first one.**

What has been read without a fault can always be completed: whatever is open can be closed. So a fault at
a token means that the tokens before it begin a document and that, with this token, they no longer do. A
fault at the end means that all tokens begin a document and are none; it is at a token that is still
open.

* `BeginsDocument`, `IsFirstFault`: the statement.
* `Reading.closers`, `finish_closers`: what completes a state.
* `Starts`: how a document begins, with a wrapper or without one.
* `Reading.positions`, `positions_step`: the tokens that a fault at the end may name.
* `error_step`, `run_error`: a run is refused at one of its tokens or at the end.
* `refused_of_readTokens`, `firstFault_of_readTokens`: all of it for documents that are refused.
-/

import BlockPage.Proofs.Layout.ReadingExact
import BlockPage.Proofs.Traversal

namespace BlockPage.Layout

/-- The lexemes can be continued to a document. -/
def BeginsDocument (lexemes : List Lexeme) : Prop :=
  ∃ rest blocks, IsDocument (lexemes ++ rest) blocks

/-- The fault is at the first token with which the tokens no longer begin a document, or, if there is no
such token and the document is incomplete, at some token. -/
inductive IsFirstFault (tokens : List Token) : SourceError → Prop
  | token {before after : List Token} {token : Token} (fault : Fault) :
      tokens = before ++ token :: after → BeginsDocument (before.map Token.lexeme) →
      ¬ BeginsDocument ((before ++ [token]).map Token.lexeme) →
      IsFirstFault tokens (.located token.position fault)
  | incomplete {token : Token} (fault : Fault) : token ∈ tokens →
      BeginsDocument (tokens.map Token.lexeme) →
      (¬ ∃ blocks, IsDocument (tokens.map Token.lexeme) blocks) →
      IsFirstFault tokens (.located token.position fault)

/-! ### Completing what has been read -/

/-- What closes everything that is open. -/
def Reading.closers (reading : Reading) : List Token :=
  let outer := if reading.wrapper.isSome then [⟨.closing .brace, .start⟩] else []
  match reading.awaiting with
  | .declaration => outer
  | .body _ => outer
  | .entry body _ => ⟨.closing body.bracket, .start⟩ :: outer
  | .colon body _ => ⟨.closing body.bracket, .start⟩ :: outer
  | .value body _ _ => ⟨.identifier [], .start⟩ :: ⟨.closing body.bracket, .start⟩ :: outer
  | .nothing => []

/-- **From every state a document can be finished**: the closers of the state do it. -/
theorem finish_closers (reading : Reading) :
    ∃ last blocks, run reading reading.closers = .ok last ∧ last.finish = .ok blocks := by
  obtain ⟨wrapper, blocks, awaiting⟩ := reading
  -- the bracket decides whether a token closes the body
  cases awaiting with
  | declaration => cases wrapper <;> exact ⟨_, _, rfl, rfl⟩
  | body name => cases wrapper <;> exact ⟨_, _, rfl, rfl⟩
  | entry body comma =>
    obtain ⟨name, bracket, opened, config⟩ := body
    cases wrapper <;> cases bracket <;> exact ⟨_, _, rfl, rfl⟩
  | colon body key =>
    obtain ⟨name, bracket, opened, config⟩ := body
    cases wrapper <;> cases bracket <;> exact ⟨_, _, rfl, rfl⟩
  | value body key colon =>
    obtain ⟨name, bracket, opened, config⟩ := body
    cases wrapper <;> cases bracket <;> exact ⟨_, _, rfl, rfl⟩
  | nothing => exact ⟨_, _, rfl, rfl⟩

/-! ### The beginning of a document -/

/-- The tokens before the first declaration, and the wrapper that they open in front of other tokens. -/
inductive Starts : List Token → Option Position → List Token → Prop
  | wrapped {first second : Token} {others : List Token} :
      first.lexeme = .identifier layoutWord → second.lexeme = .opening .brace →
      Starts [first, second] (some second.position) others
  | plain {others : List Token} : wrapper? others = none → Starts [] none others

/-- Tokens begin with the wrapper or without it. -/
theorem exists_starts (tokens : List Token) :
    ∃ front wrapper rest, tokens = front ++ rest ∧ Starts front wrapper rest := by
  cases found : wrapper? tokens with
  | none => exact ⟨[], none, tokens, rfl, .plain found⟩
  | some inside =>
    unfold wrapper? at found
    split at found
    · rename_i first second rest
      split at found
      · rename_i both
        obtain ⟨isName, opens⟩ := Bool.and_eq_true _ _ ▸ both
        exact ⟨[first, second], some second.position, rest, rfl,
          .wrapped (of_decide_eq_true isName) (of_decide_eq_true opens)⟩
      · cases found
    · cases found

theorem wrapper?_cons_cons {first second : Token} {rest others : List Token}
    (found : wrapper? (first :: second :: rest) = none) :
    wrapper? (first :: second :: others) = none := by
  unfold wrapper? at found ⊢
  dsimp only at found ⊢
  split at found
  · cases found
  · rename_i other
    rw [if_neg other]

/-- Without a wrapper a document starts with a name. -/
theorem step_start_iff {token : Token} {next : Reading} :
    (Reading.start none).step token = .ok next ↔
      ∃ name, token.lexeme = .identifier name ∧ next = ⟨none, [], .body name⟩ := by
  obtain ⟨lexeme, position⟩ := token
  have refused : ∀ error : SourceError, (Except.error error : Except SourceError Reading) ≠ .ok next :=
    fun _ same => nomatch same
  cases lexeme with
  | identifier name =>
    refine ⟨fun stepped => ⟨name, rfl, (Except.ok.inj stepped).symm⟩, ?_⟩
    rintro ⟨_, ⟨⟩, rfl⟩
    rfl
  | closing bracket =>
    cases bracket <;>
      exact iff_of_false (refused _) fun ⟨_, same, _⟩ => nomatch same
  | _ => exact iff_of_false (refused _) fun ⟨_, same, _⟩ => nomatch same

section Starts

variable {front before after : List Token} {wrapper : Option Position} {token : Token}
  {next : Reading} {error : SourceError}

/-- Behind its beginning a document is read step by step, whatever follows. -/
theorem Starts.read {others : List Token} (starts : Starts front wrapper others) :
    readTokens (front ++ others) = (run (.start wrapper) others >>= Reading.finish) := by
  cases starts with
  | @wrapped first second _ isName opens =>
    have found : wrapper? ([first, second] ++ others) = some (second.position, others) := by
      show (if first.lexeme = .identifier layoutWord && second.lexeme = .opening .brace then _
        else none) = _
      rw [isName, opens]
      rfl
    rw [readTokens, found]
    rfl
  | plain found =>
    rw [List.nil_append, readTokens, found]
    rfl

/-- What completes the tokens leaves their wrapper as it is. -/
theorem Starts.closers (starts : Starts front wrapper (before ++ after))
    (ran : run (.start wrapper) before = .ok next) :
    Starts front wrapper (before ++ next.closers) := by
  cases starts with
  | wrapped isName opens => exact .wrapped isName opens
  | plain found =>
    refine .plain ?_
    match before with
    | [] =>
      cases ran
      rfl
    | [token] =>
      -- a name needs nothing behind it
      obtain ⟨_, stepped, ⟨⟩⟩ := run_cons_eq_ok_iff.mp ran
      obtain ⟨name, _, rfl⟩ := step_start_iff.mp stepped
      rfl
    | first :: second :: rest => exact wrapper?_cons_cons found

/-- No other token helps behind one that is refused. -/
theorem Starts.refused (starts : Starts front wrapper (before ++ token :: after))
    (ran : run (.start wrapper) before = .ok next) (stepped : next.step token = .error error)
    (others : List Token) : Starts front wrapper (before ++ token :: others) := by
  cases starts with
  | wrapped isName opens => exact .wrapped isName opens
  | plain found =>
    refine .plain ?_
    match before with
    | [] =>
      cases ran
      -- a document with a wrapper starts with a name, too
      cases opened : wrapper? (token :: others) with
      | none => exact opened
      | some inside =>
        have isName := (List.cons.inj (wrapper?_eq_some opened)).1
        rw [step_start_iff.mpr ⟨_, isName, rfl⟩] at stepped
        cases stepped
    | [first] => exact wrapper?_cons_cons found
    | first :: second :: rest => exact wrapper?_cons_cons found

end Starts

/-! ### Where faults are -/

/-- The positions of what is open. -/
def Awaiting.positions : Awaiting → List Position
  | .entry inside _ => [inside.opened]
  | .colon inside _ => [inside.opened]
  | .value inside _ position => [inside.opened, position]
  | _ => []

/-- The positions that a fault at the end may have. -/
def Reading.positions (reading : Reading) : List Position :=
  reading.wrapper.toList ++ reading.awaiting.positions

section Positions

variable {reading next : Reading} {token : Token} {error : SourceError}

/-- Settling forgets no position that an error may name later. -/
theorem positions_settle (reading : Reading) : reading.settle.positions = reading.positions := by
  obtain ⟨wrapper, blocks, awaiting⟩ := reading
  cases awaiting <;> rfl

theorem positions_of_awaiting {state : Reading} {awaited : Awaiting}
    (awaiting : state.awaiting = awaited) :
    state.positions = state.wrapper.toList ++ awaited.positions := by
  rw [Reading.positions, awaiting]

/-- **One step.** What is open was so before or is the token. -/
theorem positions_step (stepped : reading.step token = .ok next) :
    next.positions ⊆ reading.positions ++ [token.position] := by
  have outer : reading.wrapper.toList ⊆ reading.positions ++ [token.position] :=
    List.Subset.trans (List.subset_append_left _ _) (List.subset_append_left _ _)
  cases step_eq_ok_iff.mp stepped with
  | name | unwrap | closing =>
    -- nothing is open but the wrapper
    rw [← reading.settle_wrapper] at outer
    exact List.append_subset.mpr ⟨outer, List.nil_subset _⟩
  | opening => exact List.append_subset.mpr ⟨outer, List.subset_append_right _ _⟩
  | comma _ awaiting | key _ awaiting =>
    rw [← positions_settle reading, positions_of_awaiting awaiting]
    exact List.subset_append_left _ _
  | colon _ awaiting =>
    rw [positions_of_awaiting awaiting, List.append_assoc]
    exact List.Subset.refl _
  | value _ awaiting =>
    -- the colon has its value
    rw [positions_of_awaiting awaiting, List.append_assoc]
    exact List.append_subset.mpr ⟨List.subset_append_left _ _,
      List.cons_subset.mpr ⟨List.mem_append_right _ (.head _), List.nil_subset _⟩⟩

theorem error_stepDeclaration (stepped : reading.stepDeclaration token = .error error) :
    ∃ fault, error = .located token.position fault := by
  unfold Reading.stepDeclaration at stepped
  split at stepped
  · cases stepped
  · split at stepped <;> cases stepped
    exact ⟨_, rfl⟩

theorem error_stepEntry {body : Body} {comma : Bool}
    (stepped : reading.stepEntry body comma token = .error error) :
    ∃ fault, error = .located token.position fault := by
  unfold Reading.stepEntry at stepped
  split at stepped
  · cases stepped
  split at stepped
  · cases stepped
  split at stepped <;> cases stepped
  exact ⟨_, rfl⟩

theorem error_step (stepped : reading.step token = .error error) :
    ∃ fault, error = .located token.position fault := by
  unfold Reading.step at stepped
  split at stepped
  · exact error_stepDeclaration stepped
  · split at stepped
    · cases stepped
    · exact error_stepDeclaration stepped
  · exact error_stepEntry stepped
  · split at stepped
    · cases stepped
    · exact error_stepEntry stepped
  · split at stepped <;> cases stepped
    exact ⟨_, rfl⟩
  · cases stepped
    exact ⟨_, rfl⟩

theorem error_finish (finished : reading.finish = .error error) :
    ∃ position ∈ reading.positions, ∃ fault, error = .located position fault := by
  obtain ⟨wrapper, blocks, awaiting⟩ := reading
  cases awaiting with
  | declaration =>
    cases wrapper with
    | none => cases finished
    | some opened =>
      cases finished
      exact ⟨opened, .head _, _, rfl⟩
  | body name =>
    cases wrapper with
    | none => cases finished
    | some opened =>
      cases finished
      exact ⟨opened, .head _, _, rfl⟩
  | entry body comma =>
    cases finished
    exact ⟨body.opened, List.mem_append_right _ (.head _), _, rfl⟩
  | colon body key =>
    cases finished
    exact ⟨body.opened, List.mem_append_right _ (.head _), _, rfl⟩
  | value body key colon =>
    cases finished
    exact ⟨colon, List.mem_append_right _ (.tail _ (.head _)), _, rfl⟩
  | nothing => cases finished

/-- The positions that a state keeps are those of tokens that were read. -/
theorem positions_run {tokens : List Token} (ran : run reading tokens = .ok next) :
    next.positions ⊆ reading.positions ++ tokens.map Token.position := by
  induction tokens generalizing reading with
  | nil =>
    cases ran
    exact List.subset_append_left _ _
  | cons token tokens ih =>
    obtain ⟨between, stepped, ran⟩ := run_cons_eq_ok_iff.mp ran
    refine List.Subset.trans (ih ran) (List.append_subset.mpr ⟨?_, ?_⟩)
    · refine List.Subset.trans (positions_step stepped)
        (List.append_subset.mpr ⟨List.subset_append_left _ _, ?_⟩)
      exact List.cons_subset.mpr ⟨List.mem_append_right _ (.head _), List.nil_subset _⟩
    · exact List.Subset.trans (List.subset_cons_self _ _) (List.subset_append_right _ _)

/-- A run that is refused is refused at some token or at the end. -/
theorem run_error {tokens : List Token}
    (ran : (run reading tokens >>= Reading.finish) = .error error) :
    (∃ before token after last, tokens = before ++ token :: after ∧
      run reading before = .ok last ∧ last.step token = .error error) ∨
    ∃ last, run reading tokens = .ok last ∧ last.finish = .error error := by
  induction tokens generalizing reading with
  | nil => exact .inr ⟨reading, rfl, ran⟩
  | cons token tokens ih =>
    cases stepped : reading.step token with
    | error other =>
      rw [run, List.foldlM_cons, stepped] at ran
      cases ran
      exact .inl ⟨[], token, tokens, reading, rfl, rfl, stepped⟩
    | ok between =>
      rw [run_cons stepped] at ran
      rcases ih ran with ⟨before, refused, after, last, rfl, read, failed⟩ | ⟨last, read, failed⟩
      · exact .inl ⟨token :: before, refused, after, last, rfl,
          run_cons_eq_ok_iff.mpr ⟨between, stepped, read⟩, failed⟩
      · exact .inr ⟨last, run_cons_eq_ok_iff.mpr ⟨between, stepped, read⟩, failed⟩

end Positions

/-! ### The first fault -/

section First

variable {front before after : List Token} {wrapper : Option Position} {token : Token}
  {next : Reading} {error : SourceError}

theorem Starts.positions {others : List Token} (starts : Starts front wrapper others) :
    (Reading.start wrapper).positions ⊆ front.map Token.position := by
  cases starts with
  | wrapped _ _ => exact List.subset_cons_self _ _
  | plain _ => exact List.nil_subset _

/-- What has been read begins a document. -/
theorem Starts.begins (starts : Starts front wrapper (before ++ after))
    (ran : run (.start wrapper) before = .ok next) :
    BeginsDocument ((front ++ before).map Token.lexeme) := by
  obtain ⟨last, blocks, closed, finished⟩ := finish_closers next
  have read : readTokens ((front ++ before) ++ next.closers) = .ok blocks := by
    rw [List.append_assoc, (starts.closers ran).read, run_append ran, closed]
    exact finished
  refine ⟨next.closers.map Token.lexeme, blocks, ?_⟩
  rw [← List.map_append]
  exact document_of_readTokens read

/-- What has been refused begins no document. -/
theorem Starts.not_begins (starts : Starts front wrapper (before ++ token :: after))
    (ran : run (.start wrapper) before = .ok next) (stepped : next.step token = .error error) :
    ¬ BeginsDocument ((front ++ before ++ [token]).map Token.lexeme) := by
  rintro ⟨rest, blocks, document⟩
  let others := rest.map (Token.mk · .start)
  have lexemes : ((front ++ before ++ [token]).map Token.lexeme) ++ rest =
      (front ++ (before ++ token :: others)).map Token.lexeme := by
    simp [others, Function.comp_def]
  rw [lexemes] at document
  have read := readTokens_of_document document
  rw [(starts.refused ran stepped others).read, run_append ran, run, List.foldlM_cons, stepped] at read
  cases read

/-- A document is refused at a token with which the tokens no longer begin a document, or at the end of
tokens that begin one and are none. -/
theorem refused_of_readTokens {tokens : List Token} (read : readTokens tokens = .error error) :
    (∃ before token after fault, tokens = before ++ token :: after ∧
      error = .located token.position fault ∧ BeginsDocument (before.map Token.lexeme) ∧
      ¬ BeginsDocument ((before ++ [token]).map Token.lexeme)) ∨
    ∃ front wrapper rest last, tokens = front ++ rest ∧ Starts front wrapper rest ∧
      run (.start wrapper) rest = .ok last ∧ last.finish = .error error ∧
      BeginsDocument (tokens.map Token.lexeme) ∧
      ¬ ∃ blocks, IsDocument (tokens.map Token.lexeme) blocks := by
  obtain ⟨front, wrapper, rest, rfl, starts⟩ := exists_starts tokens
  rcases run_error (starts.read.symm.trans read) with
    ⟨before, token, after, last, rfl, ran, stepped⟩ | ⟨last, ran, finished⟩
  · obtain ⟨fault, rfl⟩ := error_step stepped
    exact .inl ⟨front ++ before, token, after, fault, (List.append_assoc front before _).symm, rfl,
      starts.begins ran, starts.not_begins ran stepped⟩
  · refine .inr ⟨front, wrapper, rest, last, rfl, starts, ran, finished, ?_, ?_⟩
    · rw [← List.append_nil rest] at starts
      exact starts.begins ran
    · rintro ⟨blocks, document⟩
      rw [readTokens_of_document document] at read
      cases read

end First

/-- **The first fault.** -/
theorem firstFault_of_readTokens {tokens : List Token} {error : SourceError}
    (read : readTokens tokens = .error error) : IsFirstFault tokens error := by
  rcases refused_of_readTokens read with
    ⟨before, token, after, fault, split, rfl, begins, wrong⟩ |
    ⟨front, wrapper, rest, last, rfl, starts, ran, finished, begins, incomplete⟩
  · exact .token fault split begins wrong
  · obtain ⟨position, inside, fault, rfl⟩ := error_finish finished
    have named : position ∈ (front ++ rest).map Token.position := by
      rw [List.map_append, List.mem_append]
      rcases List.mem_append.mp (positions_run ran inside) with opened | behind
      · exact .inl (starts.positions opened)
      · exact .inr behind
    obtain ⟨token, listed, rfl⟩ := List.mem_map.mp named
    exact .incomplete fault listed begins incomplete

end BlockPage.Layout
