/-
**Reading is exact for the grammar of documents.**

* `Reading.Steps`, `step_eq_ok_iff`: all that a step can do.
* `Reached`: what has been read without a fault is derived by the grammar, with its last declaration
  perhaps incomplete.
* `Reached.step`, `Reached.run`: it stays so with one more token, and with many.
* `Reached.finish`, `Reached.finishWrapped`: the end of a document.
* `readTokens_exact`: the reader answers with blocks on just the documents of the grammar.
-/

import BlockPage.Proofs.Layout.DocumentReading

namespace BlockPage.Layout

/-! ### What a step does -/

/-- Where a declaration or an entry may start, a name or a key that is still open is complete. Only a
body and a colon go on with it. -/
inductive Reading.Steps (reading : Reading) (token : Token) : Reading → Prop
  | name {name : Text} : token.lexeme = .identifier name → reading.settle.awaiting = .declaration →
      Steps reading token (reading.settle.await (.body name))
  | unwrap : token.lexeme = .closing .brace → reading.settle.wrapper.isSome = true →
      reading.settle.awaiting = .declaration → Steps reading token (reading.settle.await .nothing)
  | opening {name : Text} {bracket : Bracket} : token.lexeme = .opening bracket →
      reading.awaiting = .body name →
      Steps reading token (reading.await (.entry ⟨name, bracket, token.position, ∅⟩ false))
  | closing {body : Body} {comma : Bool} : token.lexeme = .closing body.bracket →
      reading.settle.awaiting = .entry body comma →
      Steps reading token (reading.settle.place body.name body.config)
  | comma {body : Body} : token.lexeme = .comma → reading.settle.awaiting = .entry body true →
      Steps reading token (reading.settle.await (.entry body false))
  | key {body : Body} {comma : Bool} {key : Text} : IsKey token.lexeme key →
      reading.settle.awaiting = .entry body comma →
      Steps reading token (reading.settle.await (.colon body key))
  | colon {body : Body} {key : Text} : token.lexeme = .colon → reading.awaiting = .colon body key →
      Steps reading token (reading.await (.value body key token.position))
  | value {body : Body} {key : Text} {colon : Position} {value : Scalar} :
      IsValue token.lexeme value → reading.awaiting = .value body key colon →
      Steps reading token (reading.await (.entry (body.bind key value) true))

section Step

variable {reading next : Reading} {token : Token}

/-- Where a declaration may begin, only a name and the brace of the wrapper are read. -/
theorem steps_of_stepDeclaration (awaiting : reading.settle.awaiting = .declaration)
    (stepped : reading.settle.stepDeclaration token = .ok next) : reading.Steps token next := by
  unfold Reading.stepDeclaration at stepped
  split at stepped
  · rename_i name isName
    cases stepped
    exact .name isName awaiting
  · split at stepped
    · rename_i both
      cases stepped
      obtain ⟨closes, wrapped⟩ := Bool.and_eq_true _ _ ▸ both
      exact .unwrap (of_decide_eq_true closes) wrapped awaiting
    · cases stepped

/-- Inside a body, only a key, a comma behind an entry and the closing bracket are read. -/
theorem steps_of_stepEntry {body : Body} {comma : Bool}
    (awaiting : reading.settle.awaiting = .entry body comma)
    (stepped : reading.settle.stepEntry body comma token = .ok next) : reading.Steps token next := by
  unfold Reading.stepEntry at stepped
  split at stepped
  · rename_i closes
    cases stepped
    exact .closing closes awaiting
  · split at stepped
    · rename_i both
      cases stepped
      obtain ⟨rfl, isComma⟩ := Bool.and_eq_true _ _ ▸ both
      exact .comma (of_decide_eq_true isComma) awaiting
    · split at stepped
      · rename_i key found
        cases stepped
        exact .key (key?_eq_some_iff.mp found) awaiting
      · cases stepped

/-- The state and the token decide the step. -/
theorem step_eq_ok_iff : reading.step token = .ok next ↔ reading.Steps token next := by
  constructor
  · intro stepped
    obtain ⟨wrapper, blocks, awaiting⟩ := reading
    cases awaiting with
    | declaration => exact steps_of_stepDeclaration rfl stepped
    | body name =>
      unfold Reading.step at stepped
      dsimp only at stepped
      split at stepped
      · rename_i bracket opens
        cases stepped
        exact .opening opens rfl
      · exact steps_of_stepDeclaration rfl stepped
    | entry body comma => exact steps_of_stepEntry rfl stepped
    | colon body key =>
      unfold Reading.step at stepped
      dsimp only at stepped
      split at stepped
      · rename_i isColon
        cases stepped
        exact .colon isColon rfl
      · exact steps_of_stepEntry rfl stepped
    | value body key colon =>
      unfold Reading.step at stepped
      dsimp only at stepped
      split at stepped
      · rename_i value found
        cases stepped
        exact .value (value?_eq_some_iff.mp found) rfl
      · cases stepped
    | nothing => cases stepped
  · intro steps
    cases steps with
    | name isName awaiting => exact step_name isName (Reading.eq_await awaiting)
    | unwrap closes wrapped awaiting => exact step_unwrap closes wrapped (Reading.eq_await awaiting)
    | closing closes awaiting => exact step_closing closes (Reading.eq_await awaiting)
    | comma isComma awaiting => exact step_comma isComma (Reading.eq_await awaiting)
    | key isKey awaiting => exact step_key isKey (Reading.eq_await awaiting)
    | opening opens awaiting =>
      exact (congrArg (·.step token) (Reading.eq_await awaiting)).trans (step_opening opens)
    | colon isColon awaiting =>
      exact (congrArg (·.step token) (Reading.eq_await awaiting)).trans (step_colon isColon)
    | value isValue awaiting =>
      exact (congrArg (·.step token) (Reading.eq_await awaiting)).trans (step_value isValue)

end Step

/-! ### What is read is derived -/

section Sound

theorem IsEntries.append {first second : List Lexeme} {entries others : List (Text × Scalar)}
    (one : IsEntries first entries) (two : IsEntries second others) :
    IsEntries (first ++ second) (entries ++ others) := by
  induction one with
  | last entry optional =>
    rw [List.append_assoc]
    exact .more entry optional two
  | more entry optional _ ih =>
    rw [List.append_assoc, List.append_assoc]
    exact .more entry optional ih

theorem IsDeclarations.append {first second : List Lexeme} {blocks others : List Block}
    (one : IsDeclarations first blocks) (two : IsDeclarations second others) :
    IsDeclarations (first ++ second) (blocks ++ others) := by
  induction one with
  | nil => exact two
  | cons declaration _ ih =>
    rw [List.append_assoc]
    exact .cons declaration ih

theorem IsDeclarations.concat {done written : List Lexeme} {blocks : List Block} {block : Block}
    (declarations : IsDeclarations done blocks.reverse)
    (declaration : IsDeclaration written block) :
    IsDeclarations (done ++ written) (block :: blocks).reverse := by
  rw [List.reverse_cons]
  have last := IsDeclarations.cons declaration .nil
  rw [List.append_nil] at last
  exact declarations.append last

/-- The inside of a body, perhaps without entries. -/
def IsInside (written : List Lexeme) (entries : List (Text × Scalar)) : Prop :=
  (written = [] ∧ entries = []) ∨ IsEntries written entries

theorem IsInside.concat {written last comma : List Lexeme} {entries : List (Text × Scalar)}
    {entry : Text × Scalar} (inside : IsInside written entries) (isEntry : IsEntry last entry)
    (optional : OptionalComma comma) :
    IsEntries (written ++ (last ++ comma)) (entries ++ [entry]) := by
  rcases inside with ⟨rfl, rfl⟩ | inside
  · rw [List.nil_append, List.nil_append]
    exact .last isEntry optional
  · exact inside.append (.last isEntry optional)

/-- The state behind lexemes of which all but the last declaration are complete. -/
inductive Reached : List Lexeme → Reading → Prop
  | declaration {done : List Lexeme} {wrapper : Option Position} {blocks : List Block} :
      IsDeclarations done blocks.reverse → Reached done ⟨wrapper, blocks, .declaration⟩
  | body {done : List Lexeme} {wrapper : Option Position} {blocks : List Block} {name : Text} :
      IsDeclarations done blocks.reverse →
      Reached (done ++ [.identifier name]) ⟨wrapper, blocks, .body name⟩
  | entry {done written : List Lexeme} {wrapper : Option Position} {blocks : List Block}
      {entries : List (Text × Scalar)} {body : Body} : IsDeclarations done blocks.reverse →
      IsInside written entries → body.config = .ofList entries →
      Reached (done ++ (.identifier body.name :: .opening body.bracket :: written))
        ⟨wrapper, blocks, .entry body false⟩
  | bound {done written last : List Lexeme} {wrapper : Option Position} {blocks : List Block}
      {entries : List (Text × Scalar)} {entry : Text × Scalar} {body : Body} :
      IsDeclarations done blocks.reverse → IsInside written entries → IsEntry last entry →
      body.config = .ofList (entries ++ [entry]) →
      Reached (done ++ (.identifier body.name :: .opening body.bracket :: (written ++ last)))
        ⟨wrapper, blocks, .entry body true⟩
  | colon {done written : List Lexeme} {wrapper : Option Position} {blocks : List Block}
      {entries : List (Text × Scalar)} {body : Body} {lexeme : Lexeme} {key : Text} :
      IsDeclarations done blocks.reverse → IsInside written entries →
      body.config = .ofList entries → IsKey lexeme key →
      Reached (done ++ (.identifier body.name :: .opening body.bracket :: (written ++ [lexeme])))
        ⟨wrapper, blocks, .colon body key⟩
  | value {done written : List Lexeme} {wrapper : Option Position} {blocks : List Block}
      {entries : List (Text × Scalar)} {body : Body} {lexeme : Lexeme} {key : Text}
      {colon : Position} : IsDeclarations done blocks.reverse → IsInside written entries →
      body.config = .ofList entries → IsKey lexeme key →
      Reached (done ++ (.identifier body.name :: .opening body.bracket ::
        (written ++ [lexeme, .colon]))) ⟨wrapper, blocks, .value body key colon⟩
  | nothing {done : List Lexeme} {opened : Position} {blocks : List Block} :
      IsDeclarations done blocks.reverse →
      Reached (done ++ [.closing .brace]) ⟨some opened, blocks, .nothing⟩

variable {read : List Lexeme} {reading next : Reading} {token : Token}

/-- What is inside a body, with its name and brackets, is a declaration. -/
theorem isDeclaration_of_inside {written : List Lexeme} {entries : List (Text × Scalar)} {body : Body}
    (inside : IsInside written entries) (config : body.config = .ofList entries) :
    IsDeclaration (.identifier body.name :: .opening body.bracket ::
        (written ++ [.closing body.bracket])) { typeId := body.name, config := body.config } := by
  rcases inside with ⟨rfl, rfl⟩ | inside
  · rw [config]
    exact .empty body.name body.bracket
  · refine .body body.name body.bracket inside ?_
    rw [config]
    exact OrderedMap.binds_ofList entries

/-- What has been read of a body between two of its entries. -/
theorem Reached.inside {body : Body} {comma : Bool} (reached : Reached read reading)
    (awaiting : reading.awaiting = .entry body comma) :
    ∃ done written entries, IsDeclarations done reading.blocks.reverse ∧
      IsInside written entries ∧ body.config = .ofList entries ∧
      read = done ++ (.identifier body.name :: .opening body.bracket :: written) ∧
      (comma = true → IsInside (written ++ [.comma]) entries) := by
  cases reached with
  | entry declarations inside config =>
    cases awaiting
    exact ⟨_, _, _, declarations, inside, config, rfl, fun no => nomatch no⟩
  | @bound done written last _ _ entries entry _ declarations inside isEntry config =>
    cases awaiting
    have plain := inside.concat isEntry (.inl rfl)
    rw [List.append_nil] at plain
    refine ⟨done, written ++ last, entries ++ [entry], declarations, .inr plain, config, rfl, ?_⟩
    intro _
    rw [List.append_assoc]
    exact .inr (inside.concat isEntry (.inr rfl))
  | _ => cases awaiting

theorem config_bind {body : Body} {entries : List (Text × Scalar)}
    (config : body.config = .ofList entries) (key : Text) (value : Scalar) :
    (body.bind key value).config = .ofList (entries ++ [(key, value)]) := by
  rw [OrderedMap.ofList_concat, ← config]
  rfl

/-- A name without a body is a declaration, and a key without a value is an entry. -/
theorem Reached.settle (reached : Reached read reading) : Reached read reading.settle := by
  cases reached with
  | body declarations => exact .declaration (declarations.concat (.bare _))
  | @colon done written wrapper blocks entries body lexeme key declarations inside config isKey =>
    show Reached _ ⟨wrapper, blocks, .entry (body.bind key (.boolean true)) true⟩
    exact Reached.bound declarations inside (.alone isKey) (config_bind config key _)
  | declaration declarations => exact .declaration declarations
  | entry declarations inside config => exact .entry declarations inside config
  | bound declarations inside isEntry config => exact .bound declarations inside isEntry config
  | value declarations inside config isKey => exact .value declarations inside config isKey
  | nothing declarations => exact .nothing declarations

/-- Between declarations just whole ones have been read. -/
theorem Reached.declarations (reached : Reached read reading)
    (awaiting : reading.awaiting = .declaration) : IsDeclarations read reading.blocks.reverse := by
  cases reached with
  | declaration declarations => exact declarations
  | _ => cases awaiting

/-- **One more token.** What is reached stays derivable. -/
theorem Reached.step (reached : Reached read reading) (stepped : reading.step token = .ok next) :
    Reached (read ++ [token.lexeme]) next := by
  cases step_eq_ok_iff.mp stepped with
  | name isName awaiting =>
    rw [isName]
    exact .body (reached.settle.declarations awaiting)
  | unwrap closes wrapped awaiting =>
    have declarations := reached.settle.declarations awaiting
    obtain ⟨opened, wrapper⟩ := Option.isSome_iff_exists.mp wrapped
    rw [closes, Reading.await, wrapper]
    exact .nothing declarations
  | @opening name bracket opens awaiting =>
    cases reached with
    | @body done wrapper blocks _ declarations =>
      cases awaiting
      rw [opens, List.append_assoc]
      exact @Reached.entry done [] wrapper blocks [] ⟨name, bracket, token.position, ∅⟩ declarations
        (.inl ⟨rfl, rfl⟩) rfl
    | _ => cases awaiting
  | closing closes awaiting =>
    obtain ⟨done, written, entries, declarations, inside, config, rfl, _⟩ :=
      reached.settle.inside awaiting
    rw [closes, List.append_assoc, List.cons_append, List.cons_append]
    exact .declaration (declarations.concat (isDeclaration_of_inside inside config))
  | comma isComma awaiting =>
    obtain ⟨done, written, entries, declarations, inside, config, rfl, behind⟩ :=
      reached.settle.inside awaiting
    rw [isComma, List.append_assoc, List.cons_append, List.cons_append]
    exact .entry declarations (behind rfl) config
  | key isKey awaiting =>
    obtain ⟨done, written, entries, declarations, inside, config, rfl, _⟩ :=
      reached.settle.inside awaiting
    rw [List.append_assoc, List.cons_append, List.cons_append]
    exact .colon declarations inside config isKey
  | colon isColon awaiting =>
    cases reached with
    | colon declarations inside config isKey =>
      cases awaiting
      rw [isColon, List.append_assoc, List.cons_append, List.cons_append, List.append_assoc]
      exact .value declarations inside config isKey
    | _ => cases awaiting
  | @value body key colon value isValue awaiting =>
    cases reached with
    | value declarations inside config isKey =>
      cases awaiting
      rw [List.append_assoc, List.cons_append, List.cons_append, List.append_assoc]
      exact Reached.bound declarations inside (.valued isKey isValue) (config_bind config key value)
    | _ => cases awaiting

/-- Many more tokens. -/
theorem Reached.run (tokens : List Token) :
    ∀ {read : List Lexeme} {reading next : Reading}, Reached read reading →
      run reading tokens = .ok next → Reached (read ++ tokens.map Token.lexeme) next := by
  induction tokens with
  | nil =>
    intro read reading next reached ran
    cases ran
    rw [List.map_nil, List.append_nil]
    exact reached
  | cons token rest ih =>
    intro read reading next reached ran
    obtain ⟨between, stepped, ran⟩ := run_cons_eq_ok_iff.mp ran
    have derived := ih (reached.step stepped) ran
    rwa [List.append_assoc] at derived

/-- Blocks that were finished without a wrapper are derived from all the lexemes. -/
theorem Reached.finish {blocks : List Block} (reached : Reached read reading)
    (finished : reading.finish = .ok blocks) (unwrapped : reading.wrapper = none) :
    IsDeclarations read blocks := by
  cases reached with
  | declaration declarations =>
    cases unwrapped
    cases finished
    exact declarations
  | body declarations =>
    cases unwrapped
    cases finished
    exact declarations.concat (.bare _)
  | nothing declarations => cases unwrapped
  | _ => cases finished

/-- Blocks that were finished in a wrapper are derived from the lexemes before the brace that closes
it. -/
theorem Reached.finishWrapped {blocks : List Block} {opened : Position}
    (reached : Reached read reading) (finished : reading.finish = .ok blocks)
    (wrapped : reading.wrapper = some opened) :
    ∃ written, read = written ++ [.closing .brace] ∧ IsDeclarations written blocks := by
  cases reached with
  | nothing declarations =>
    cases finished
    exact ⟨_, rfl, declarations⟩
  | declaration declarations =>
    cases wrapped
    cases finished
  | body declarations =>
    cases wrapped
    cases finished
  | _ => cases finished

theorem step_wrapper (stepped : reading.step token = .ok next) : next.wrapper = reading.wrapper := by
  cases step_eq_ok_iff.mp stepped with
  | name | unwrap | closing | comma | key => exact reading.settle_wrapper
  | opening | colon | value => rfl

/-- No step changes how the document began. -/
theorem run_wrapper {tokens : List Token} (ran : run reading tokens = .ok next) :
    next.wrapper = reading.wrapper := by
  induction tokens generalizing reading with
  | nil =>
    cases ran
    rfl
  | cons token rest ih =>
    obtain ⟨between, stepped, ran⟩ := run_cons_eq_ok_iff.mp ran
    exact (ih ran).trans (step_wrapper stepped)

/-- A state that a whole row of tokens leads to and that is finished. -/
theorem finished_of_run {tokens : List Token} {blocks : List Block}
    (ran : (do let reading ← tokens.foldlM Reading.step reading; reading.finish) = .ok blocks) :
    ∃ last, run reading tokens = .ok last ∧ last.finish = .ok blocks := by
  cases between : run reading tokens with
  | error fault =>
    rw [← run, between] at ran
    cases ran
  | ok last =>
    rw [← run, between] at ran
    exact ⟨last, rfl, ran⟩

/-- A document that is read is derived. -/
theorem document_of_readTokens {tokens : List Token} {blocks : List Block}
    (read : readTokens tokens = .ok blocks) : IsDocument (tokens.map Token.lexeme) blocks := by
  unfold readTokens at read
  split at read
  · rename_i opened rest found
    obtain ⟨last, ran, finished⟩ := finished_of_run read
    have reached := Reached.run rest (.declaration .nil) ran
    obtain ⟨written, same, declarations⟩ := reached.finishWrapped finished (run_wrapper ran)
    rw [wrapper?_eq_some found, ← List.nil_append (rest.map _), same]
    exact .wrapped declarations
  · rename_i found
    obtain ⟨last, ran, finished⟩ := finished_of_run read
    have reached := Reached.run tokens (.declaration .nil) ran
    exact .plain (wrapper?_eq_none found) (reached.finish finished (run_wrapper ran))

end Sound

/-- **Reading is exact.** The reader answers with blocks on exactly the rows of tokens that the grammar
derives those blocks from; positions decide nothing. -/
theorem readTokens_exact (tokens : List Token) (blocks : List Block) :
    readTokens tokens = .ok blocks ↔ IsDocument (tokens.map Token.lexeme) blocks :=
  ⟨document_of_readTokens, readTokens_of_document⟩

end BlockPage.Layout
