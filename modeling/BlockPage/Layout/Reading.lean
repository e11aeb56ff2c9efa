/-
**From tokens to blocks.**

A document is read one token at a time. What has been read is a state: the finished blocks and what is
awaited next. A token that nothing can follow is a fault at that token; a source that ends too early is
a fault at the bracket, colon or wrapper that is still open.

* `Awaiting`: the places between two tokens; `Reading`: the state.
* `Reading.step`: the state behind one more token; `Reading.finish`: the blocks at the end.
* `readTokens`: a whole document, in a leading `layout` wrapper or without one.
-/

import BlockPage.Block.Basic
import BlockPage.Layout.Fault

namespace BlockPage.Layout

/-- A body that has been opened and not yet closed: the name of its block, its bracket and where that
is, and the entries so far. -/
structure Body where
  name : Text
  bracket : Bracket
  opened : Position
  config : Config
  deriving DecidableEq

/-- The body with one more entry. -/
def Body.bind (body : Body) (key : Text) (value : Scalar) : Body :=
  { body with config := body.config.insert key value }

/-- What may come next in a document. -/
inductive Awaiting where
  /-- A declaration may start. -/
  | declaration
  /-- A body of the block just named, or the next declaration. -/
  | body (name : Text)
  /-- An entry or the end of the body; a comma only behind an entry. -/
  | entry (body : Body) (comma : Bool)
  /-- The colon and value of the key just read, or what follows a key without them. -/
  | colon (body : Body) (key : Text)
  /-- The value behind a colon. -/
  | value (body : Body) (key : Text) (colon : Position)
  /-- Nothing: the wrapper has been closed. -/
  | nothing
  deriving DecidableEq

/-- The state behind some tokens of a document: where its wrapper was opened, if it has one, the
finished blocks in reverse, and what comes next. -/
structure Reading where
  wrapper : Option Position
  blocks : List Block
  awaiting : Awaiting
  deriving DecidableEq

namespace Reading

/-- Before the first token that counts. -/
def start (wrapper : Option Position) : Reading := ⟨wrapper, [], .declaration⟩

/-- One more finished block. -/
def place (reading : Reading) (name : Text) (config : Config) : Reading :=
  ⟨reading.wrapper, { typeId := name, config := config } :: reading.blocks, .declaration⟩

/-- The same blocks with something else awaited. -/
def await (reading : Reading) (next : Awaiting) : Reading :=
  { reading with awaiting := next }

/-- The state behind a token where a declaration may start. -/
def stepDeclaration (reading : Reading) (token : Token) : Except SourceError Reading :=
  match token.lexeme with
  | .identifier name => .ok (reading.await (.body name))
  | found =>
    if found = .closing .brace && reading.wrapper.isSome then .ok (reading.await .nothing)
    else .error (.located token.position (.expectedName found))

/-- The state behind a token between two entries of a body. -/
def stepEntry (reading : Reading) (body : Body) (comma : Bool) (token : Token) :
    Except SourceError Reading :=
  if token.lexeme = .closing body.bracket then .ok (reading.place body.name body.config)
  else if comma && token.lexeme = .comma then .ok (reading.await (.entry body false))
  else match token.lexeme.key? with
    | some key => .ok (reading.await (.colon body key))
    | none => .error (.located token.position (.expectedKey token.lexeme))

/-- The state behind one more token. -/
def step (reading : Reading) (token : Token) : Except SourceError Reading :=
  match reading.awaiting with
  | .declaration => reading.stepDeclaration token
  | .body name =>
    match token.lexeme with
    | .opening bracket =>
      .ok (reading.await (.entry ⟨name, bracket, token.position, ∅⟩ false))
    | _ => (reading.place name ∅).stepDeclaration token
  | .entry body comma => reading.stepEntry body comma token
  | .colon body key =>
    if token.lexeme = .colon then .ok (reading.await (.value body key token.position))
    else reading.stepEntry (body.bind key (.boolean true)) true token
  | .value body key _ =>
    match token.lexeme.value? with
    | some value => .ok (reading.await (.entry (body.bind key value) true))
    | none => .error (.located token.position (.missingValue key))
  | .nothing => .error (.located token.position (.trailing token.lexeme))

/-- The blocks when no token follows and nothing but a declaration is awaited. -/
def finishDeclarations (reading : Reading) : Except SourceError (List Block) :=
  match reading.wrapper with
  | none => .ok reading.blocks.reverse
  | some opened => .error (.located opened .unterminatedLayout)

/-- The blocks when no token follows. -/
def finish (reading : Reading) : Except SourceError (List Block) :=
  match reading.awaiting with
  | .declaration => reading.finishDeclarations
  | .body name => (reading.place name ∅).finishDeclarations
  | .entry body _ => .error (.located body.opened (.unterminatedBody body.bracket))
  | .colon body _ => .error (.located body.opened (.unterminatedBody body.bracket))
  | .value _ key colon => .error (.located colon (.missingValue key))
  | .nothing => .ok reading.blocks.reverse

end Reading

/-- The word that a wrapper starts with. -/
def layoutWord : Text := "layout"

/-- Where the wrapper of a document is opened and the tokens inside and behind it. -/
def wrapper? : List Token → Option (Position × List Token)
  | first :: second :: rest =>
    if first.lexeme = .identifier layoutWord && second.lexeme = .opening .brace then
      some (second.position, rest)
    else none
  | _ => none

/-- The blocks of a document. -/
def readTokens (tokens : List Token) : Except SourceError (List Block) :=
  match wrapper? tokens with
  | some (opened, rest) => do
    let reading ← rest.foldlM Reading.step (.start (some opened))
    reading.finish
  | none => do
    let reading ← tokens.foldlM Reading.step (.start none)
    reading.finish

end BlockPage.Layout
