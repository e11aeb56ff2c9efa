/-
**Reading does not look at positions.**

Positions are only handed on, to the faults that name them. So lexemes alone decide what is read: moving
the tokens moves the position of the fault, if there is one, and changes nothing else.

* `Token.move`, `Reading.move`, `SourceError.move`: other positions.
* `step_move`, `finish_move`: one step, and the end.
* `readTokens_move`, `readTokens_congr`: a whole document.
-/

import BlockPage.Layout.Reading

namespace BlockPage.Layout

/-! ### Other positions -/

/-- The token at another position. -/
def Token.move (move : Position → Position) (token : Token) : Token :=
  { token with position := move token.position }

/-- The fault at another position, if it has one. -/
def SourceError.move (move : Position → Position) (error : SourceError) : SourceError :=
  { error with position := error.position.map move }

/-- The body opened at another position. -/
def Body.move (move : Position → Position) (body : Body) : Body :=
  { body with opened := move body.opened }

/-- The same awaited with other positions. -/
def Awaiting.move (move : Position → Position) : Awaiting → Awaiting
  | .declaration => .declaration
  | .body name => .body name
  | .entry inside comma => .entry (inside.move move) comma
  | .colon inside key => .colon (inside.move move) key
  | .value inside key position => .value (inside.move move) key (move position)
  | .nothing => .nothing

/-- The state with other positions. -/
def Reading.move (move : Position → Position) (reading : Reading) : Reading :=
  ⟨reading.wrapper.map move, reading.blocks, reading.awaiting.move move⟩

/-- A result, or a fault at another position. -/
def moved {α : Type} (move : Position → Position) : Except SourceError α → Except SourceError α
  | .ok result => .ok result
  | .error error => .error (error.move move)

/-! ### Reading -/

section Move

variable (move : Position → Position) (reading : Reading) (token : Token)

theorem token_move : (token.move move).lexeme = token.lexeme := rfl

/-- Where a declaration may begin, positions are copied and never looked at. -/
theorem stepDeclaration_move :
    (reading.move move).stepDeclaration (token.move move) =
      moved move ((reading.stepDeclaration token).map (Reading.move move)) := by
  unfold Reading.stepDeclaration
  have wrapped : (reading.move move).wrapper.isSome = reading.wrapper.isSome := Option.isSome_map
  dsimp only [Token.move]
  cases token.lexeme with
  | identifier name => rfl
  | _ =>
    dsimp only
    rw [wrapped]
    split <;> rfl

theorem stepEntry_move (body : Body) (comma : Bool) :
    (reading.move move).stepEntry (body.move move) comma (token.move move) =
      moved move ((reading.stepEntry body comma token).map (Reading.move move)) := by
  have bracket : (body.move move).bracket = body.bracket := rfl
  unfold Reading.stepEntry
  rw [token_move, bracket]
  by_cases closed : token.lexeme = .closing body.bracket
  · rw [if_pos closed, if_pos closed]
    rfl
  · rw [if_neg closed, if_neg closed]
    cases comma && decide (token.lexeme = .comma) with
    | true => rfl
    | false => cases token.lexeme.key? <;> rfl

/-- **One step.** -/
theorem step_move :
    (reading.move move).step (token.move move) =
      moved move ((reading.step token).map (Reading.move move)) := by
  obtain ⟨wrapper, blocks, awaiting⟩ := reading
  obtain ⟨lexeme, position⟩ := token
  cases awaiting with
  | declaration => exact stepDeclaration_move move ⟨wrapper, blocks, .declaration⟩ ⟨lexeme, position⟩
  | body name =>
    have placed := stepDeclaration_move move (Reading.place ⟨wrapper, blocks, .body name⟩ name ∅)
      ⟨lexeme, position⟩
    cases lexeme with
    | opening bracket => rfl
    | _ => exact placed
  | entry body comma =>
    exact stepEntry_move move ⟨wrapper, blocks, .entry body comma⟩ ⟨lexeme, position⟩ body comma
  | colon body key =>
    have bound := stepEntry_move move ⟨wrapper, blocks, .colon body key⟩ ⟨lexeme, position⟩
      (body.bind key (.boolean true)) true
    cases lexeme with
    | colon => rfl
    | _ => exact bound
  | value body key colon => cases lexeme <;> rfl
  | nothing => rfl

theorem finish_move : (reading.move move).finish = moved move reading.finish := by
  obtain ⟨wrapper, blocks, awaiting⟩ := reading
  cases awaiting <;> cases wrapper <;> rfl

/-- Positions are moved along a run, by induction on the tokens. -/
theorem run_move (tokens : List Token) (reading : Reading) :
    (tokens.map (Token.move move)).foldlM Reading.step (reading.move move) =
      moved move ((tokens.foldlM Reading.step reading).map (Reading.move move)) := by
  induction tokens generalizing reading with
  | nil => rfl
  | cons token tokens ih =>
    rw [List.map_cons, List.foldlM_cons, List.foldlM_cons, step_move]
    cases reading.step token with
    | error error => rfl
    | ok next => exact ih next

theorem read_move (tokens : List Token) (reading : Reading) :
    ((tokens.map (Token.move move)).foldlM Reading.step (reading.move move) >>= Reading.finish) =
      moved move (tokens.foldlM Reading.step reading >>= Reading.finish) := by
  rw [run_move]
  cases tokens.foldlM Reading.step reading with
  | error error => rfl
  | ok last => exact finish_move move last

/-- The wrapper is found by lexemes, its position copied. -/
theorem wrapper?_move (tokens : List Token) :
    wrapper? (tokens.map (Token.move move)) =
      (wrapper? tokens).map fun found => (move found.1, found.2.map (Token.move move)) := by
  match tokens with
  | [] => rfl
  | [_] => rfl
  | first :: second :: rest =>
    show (if first.lexeme = .identifier layoutWord && second.lexeme = .opening .brace then _
      else none) = _
    rw [wrapper?]
    split <;> rfl

/-- **A whole document.** -/
theorem readTokens_move (tokens : List Token) :
    readTokens (tokens.map (Token.move move)) = moved move (readTokens tokens) := by
  unfold readTokens
  rw [wrapper?_move]
  cases wrapper? tokens with
  | none => exact read_move move tokens (.start none)
  | some found => exact read_move move found.2 (.start (some found.1))

end Move

/-- Tokens of the same lexemes are read as the same blocks, or have the same fault. -/
theorem readTokens_congr {tokens others : List Token}
    (same : tokens.map Token.lexeme = others.map Token.lexeme) :
    (∃ blocks, readTokens tokens = .ok blocks ∧ readTokens others = .ok blocks) ∨
      ∃ fault here there, readTokens tokens = .error ⟨fault, here⟩ ∧
        readTokens others = .error ⟨fault, there⟩ := by
  -- at one position the tokens are the same
  have gathered (tokens : List Token) : tokens.map (Token.move fun _ => .start) =
      (tokens.map Token.lexeme).map (Token.mk · .start) := by
    rw [List.map_map]
    rfl
  have read : moved (fun _ => .start) (readTokens tokens) =
      moved (fun _ => .start) (readTokens others) := by
    rw [← readTokens_move, ← readTokens_move, gathered, gathered, same]
  cases here : readTokens tokens with
  | ok blocks =>
    cases there : readTokens others with
    | ok others =>
      rw [here, there] at read
      obtain rfl := Except.ok.inj read
      exact .inl ⟨blocks, rfl, rfl⟩
    | error error =>
      rw [here, there] at read
      cases read
  | error error =>
    cases there : readTokens others with
    | ok others =>
      rw [here, there] at read
      cases read
    | error other =>
      rw [here, there] at read
      obtain ⟨fault, position⟩ := error
      obtain ⟨otherFault, otherPosition⟩ := other
      obtain rfl : fault = otherFault := congrArg SourceError.fault (Except.error.inj read)
      exact .inr ⟨fault, position, otherPosition, rfl, rfl⟩

end BlockPage.Layout
