/-
**A document is refused at the first token that cannot be right.**

The end of a source is the last thing that can be wrong in it. It is so just when all tokens begin a
document and are none; something is open then, and the fault is there: at the colon in front of the end,
else at the innermost bracket.

* `ended`, `BeginsEnded`, `wrongTokens`: the places of a row of tokens that cannot be right.
* `isLeast_token`, `isLeast_end`: the first of them.
* `unclosed`, `lastColon`: what is open behind some tokens.
* `Reading.Follows`: the state knows it; `Follows.step`, `Follows.run`: and so does every later one.
* `Follows.finish`: the fault of an incomplete document.
* `compile_firstWrong`: all of it for sources without lexical faults.
-/

import BlockPage.Layout.Compile
import BlockPage.Proofs.Layout.FirstFault
import Mathlib.Order.Bounds.Basic

namespace BlockPage.Layout

/-! ### What cannot be right -/

/-- The lexemes and the end behind them. -/
def ended (lexemes : List Lexeme) : List (Option Lexeme) := lexemes.map some ++ [none]

/-- Some document begins so; with the end, it is one. -/
def BeginsEnded (front : List (Option Lexeme)) : Prop :=
  ∃ document blocks, IsDocument document blocks ∧ front <+: ended document

/-- The places with which, and with all before them, no document begins. The last one is the end. -/
def wrongTokens (lexemes : List Lexeme) : Set Nat :=
  {place | place ≤ lexemes.length ∧ ¬ BeginsEnded ((ended lexemes).take (place + 1))}

section Wrong

variable {front behind : List Lexeme} {lexeme : Lexeme}

theorem none_not_mem_map (front : List Lexeme) : none ∉ front.map some := by
  intro inside
  obtain ⟨_, _, ⟨⟩⟩ := List.mem_map.mp inside

theorem map_some_inj {first second : List Lexeme} (same : first.map some = second.map some) :
    first = second :=
  List.map_injective_iff.mpr (Option.some_injective _) same

theorem beginsEnded_map_iff : BeginsEnded (front.map some) ↔ BeginsDocument front := by
  constructor
  · rintro ⟨document, blocks, isDocument, stands⟩
    rcases List.prefix_concat_iff.mp stands with whole | ⟨rest, inside⟩
    · -- the end is no lexeme
      exact absurd (whole ▸ List.mem_append_right _ (.head _)) (none_not_mem_map front)
    · obtain ⟨first, second, rfl, same, -⟩ := List.map_eq_append_iff.mp inside.symm
      obtain rfl := map_some_inj same
      exact ⟨second, blocks, isDocument⟩
  · rintro ⟨rest, blocks, isDocument⟩
    refine ⟨front ++ rest, blocks, isDocument, ?_⟩
    rw [ended, List.map_append, List.append_assoc]
    exact List.prefix_append _ _

/-- With the end as a last token, only whole documents begin one. -/
theorem beginsEnded_ended_iff : BeginsEnded (ended front) ↔ ∃ blocks, IsDocument front blocks := by
  constructor
  · rintro ⟨document, blocks, isDocument, stands⟩
    rcases List.prefix_concat_iff.mp stands with whole | inside
    · obtain rfl := map_some_inj (List.append_cancel_right whole)
      exact ⟨blocks, isDocument⟩
    · -- nothing stands behind the end
      have last := inside.subset (List.mem_append_right _ (.head _))
      exact absurd last (none_not_mem_map document)
  · rintro ⟨blocks, isDocument⟩
    exact ⟨front, blocks, isDocument, List.prefix_rfl⟩

theorem take_ended (place : Nat) (inside : place ≤ front.length) :
    (ended front).take place = (front.take place).map some := by
  rw [ended, List.take_append_of_le_length (by rwa [List.length_map]), List.map_take]

/-- The front of what begins a document begins it too. -/
theorem BeginsDocument.of_append (begins : BeginsDocument (front ++ behind)) : BeginsDocument front := by
  obtain ⟨rest, blocks, document⟩ := begins
  exact ⟨behind ++ rest, blocks, by rwa [← List.append_assoc]⟩

/-- Nothing is wrong in what begins a document. -/
theorem mem_lowerBounds_wrongTokens (begins : BeginsDocument front) (behind : List Lexeme) :
    front.length ∈ lowerBounds (wrongTokens (front ++ behind)) := by
  rintro place ⟨-, wrong⟩
  by_contra earlier
  have inside := Nat.lt_of_not_le earlier
  refine wrong ?_
  rw [take_ended _ (by rw [List.length_append]; omega), List.take_append_of_le_length inside,
    beginsEnded_map_iff]
  rw [← List.take_append_drop (place + 1) front] at begins
  exact begins.of_append

/-- The first wrong token is the one with which no document begins. -/
theorem isLeast_token (behind : List Lexeme) (begins : BeginsDocument front)
    (wrong : ¬ BeginsDocument (front ++ [lexeme])) :
    IsLeast (wrongTokens (front ++ lexeme :: behind)) front.length := by
  refine ⟨⟨by rw [List.length_append]; omega, ?_⟩, mem_lowerBounds_wrongTokens begins _⟩
  have split : front ++ lexeme :: behind = (front ++ [lexeme]) ++ behind := by simp
  rw [take_ended _ (by simp), split, List.take_left' (by simp), beginsEnded_map_iff]
  exact wrong

/-- The end is the first thing wrong behind the beginning of a document that is none. -/
theorem isLeast_end (begins : BeginsDocument front) (incomplete : ¬ ∃ blocks, IsDocument front blocks) :
    IsLeast (wrongTokens front) front.length := by
  have least := mem_lowerBounds_wrongTokens begins []
  rw [List.append_nil] at least
  refine ⟨⟨Nat.le_refl _, ?_⟩, least⟩
  rw [List.take_of_length_le (by simp [ended]), beginsEnded_ended_iff]
  exact incomplete

end Wrong

/-! ### What is open -/

/-- The opening brackets that are not closed behind one more token, the innermost first. -/
def unclosedBehind (opened : List Token) (token : Token) : List Token :=
  match token.lexeme with
  | .opening _ => token :: opened
  | .closing _ => opened.tail
  | _ => opened

/-- The opening brackets that some tokens leave unclosed, the innermost first. -/
def unclosed (tokens : List Token) : List Token := tokens.foldl unclosedBehind []

/-- The position of the last token if that is a colon. -/
def lastColon (tokens : List Token) : Option Position :=
  match tokens.getLast? with
  | some token => if token.lexeme = .colon then some token.position else none
  | none => none

/-- Where the fault is: at the token that is wrong, or if that is the end, at a colon in front of it, else
at the innermost bracket that is not closed. -/
inductive IsFaultPlace (tokens : List Token) : Nat → Position → Prop
  | token {place : Nat} {token : Token} : tokens[place]? = some token →
      IsFaultPlace tokens place token.position
  | colon {position : Position} : lastColon tokens = some position →
      IsFaultPlace tokens tokens.length position
  | bracket {opener : Token} {others : List Token} : lastColon tokens = none →
      unclosed tokens = opener :: others → IsFaultPlace tokens tokens.length opener.position

/-- The positions of the brackets that are open in a state, the innermost first. -/
def Reading.openings (reading : Reading) : List Position :=
  match reading.awaiting with
  | .entry inside _ => inside.opened :: reading.wrapper.toList
  | .colon inside _ => inside.opened :: reading.wrapper.toList
  | .value inside _ _ => inside.opened :: reading.wrapper.toList
  | .nothing => []
  | _ => reading.wrapper.toList

/-- The position of the colon that waits for its value. -/
def Reading.colon? (reading : Reading) : Option Position :=
  match reading.awaiting with
  | .value _ _ colon => some colon
  | _ => none

/-- The state knows what the tokens before it leave open. -/
structure Reading.Follows (reading : Reading) (tokens : List Token) : Prop where
  openings : (unclosed tokens).map Token.position = reading.openings
  colon : lastColon tokens = reading.colon?

section Follows

variable {reading next : Reading} {token : Token} {tokens others : List Token} {error : SourceError}

/-- One more token opens a bracket, closes the innermost or leaves them as they are. -/
theorem unclosed_concat (tokens : List Token) (token : Token) :
    unclosed (tokens ++ [token]) = unclosedBehind (unclosed tokens) token :=
  List.foldl_append

/-- The last colon is the last token or none at all. -/
theorem lastColon_concat (tokens : List Token) (token : Token) :
    lastColon (tokens ++ [token]) = if token.lexeme = .colon then some token.position else none := by
  rw [lastColon, List.getLast?_concat]

theorem openings_settle (reading : Reading) : reading.settle.openings = reading.openings := by
  obtain ⟨wrapper, blocks, awaiting⟩ := reading
  cases awaiting <;> rfl

/-- The wrapper alone is open where a declaration may start. -/
theorem openings_of_declaration (awaiting : reading.settle.awaiting = .declaration) :
    reading.openings = reading.settle.wrapper.toList := by
  rw [← openings_settle, Reading.openings, awaiting]

/-- Inside a body the innermost bracket is that of the body, the outer one the brace of the wrapper. -/
theorem openings_of_entry {body : Body} {comma : Bool}
    (awaiting : reading.settle.awaiting = .entry body comma) :
    reading.openings = body.opened :: reading.settle.wrapper.toList := by
  rw [← openings_settle, Reading.openings, awaiting]

/-- **One step.** -/
theorem openings_step {opened : List Token} (same : opened.map Token.position = reading.openings)
    (stepped : reading.step token = .ok next) :
    (unclosedBehind opened token).map Token.position = next.openings := by
  unfold unclosedBehind
  cases step_eq_ok_iff.mp stepped with
  | name isName awaiting =>
    rw [isName]
    exact same.trans (openings_of_declaration awaiting)
  | unwrap closes wrapped awaiting =>
    obtain ⟨wrapper, isWrapper⟩ := Option.isSome_iff_exists.mp wrapped
    rw [closes, List.map_tail, same, openings_of_declaration awaiting, isWrapper]
    rfl
  | opening opens awaiting =>
    rw [Reading.openings, awaiting] at same
    rw [opens, List.map_cons, same]
    rfl
  | closing closes awaiting =>
    rw [closes, List.map_tail, same, openings_of_entry awaiting]
    rfl
  | comma isComma awaiting =>
    rw [isComma]
    exact same.trans (openings_of_entry awaiting)
  | key isKey awaiting =>
    have kept := same.trans (openings_of_entry awaiting)
    generalize token.lexeme = lexeme at isKey
    cases isKey <;> exact kept
  | colon isColon awaiting =>
    rw [isColon]
    rw [Reading.openings, awaiting] at same
    exact same
  | value isValue awaiting =>
    rw [Reading.openings, awaiting] at same
    generalize token.lexeme = lexeme at isValue
    cases isValue <;> exact same

/-- A colon that is read waits for its value, and nothing else does. -/
theorem colon?_step (stepped : reading.step token = .ok next) :
    next.colon? = if token.lexeme = .colon then some token.position else none := by
  cases step_eq_ok_iff.mp stepped with
  | name same _ | unwrap same _ _ | opening same _ | closing same _ | comma same _ =>
    rw [same]
    rfl
  | colon isColon _ => rw [if_pos isColon]; rfl
  | key isKey _ =>
    generalize token.lexeme = lexeme at isKey
    cases isKey <;> rfl
  | value isValue _ =>
    generalize token.lexeme = lexeme at isValue
    cases isValue <;> rfl

/-- The state keeps step with the tokens: the invariant of the run. -/
theorem Reading.Follows.step (follows : reading.Follows tokens)
    (stepped : reading.step token = .ok next) : next.Follows (tokens ++ [token]) where
  openings := by
    rw [unclosed_concat]
    exact openings_step follows.openings stepped
  colon := by rw [lastColon_concat, colon?_step stepped]

/-- **Many steps.** -/
theorem Reading.Follows.run (follows : reading.Follows tokens) (ran : run reading others = .ok next) :
    next.Follows (tokens ++ others) := by
  induction others generalizing reading tokens with
  | nil =>
    cases ran
    rwa [List.append_nil]
  | cons token others ih =>
    obtain ⟨between, stepped, ran⟩ := run_cons_eq_ok_iff.mp ran
    have behind := ih (follows.step stepped) ran
    rwa [List.append_assoc] at behind

theorem Starts.follows {front : List Token} {wrapper : Option Position}
    (starts : Starts front wrapper others) : (Reading.start wrapper).Follows front := by
  cases starts with
  | @wrapped first second _ isName opens =>
    constructor
    · show ((unclosedBehind (unclosedBehind [] first) second).map Token.position) = _
      unfold unclosedBehind
      rw [isName, opens]
      rfl
    · show (if second.lexeme = .colon then _ else _) = _
      rw [opens]
      rfl
  | plain _ => exact ⟨rfl, rfl⟩

/-- The innermost bracket that is open, when no colon waits. -/
theorem Reading.Follows.innermost {position : Position} {outer : List Position}
    (follows : reading.Follows tokens) (opened : reading.openings = position :: outer)
    (closed : reading.colon? = none) : IsFaultPlace tokens tokens.length position := by
  have openings := follows.openings
  rw [opened] at openings
  obtain ⟨opener, others, split, rfl, -⟩ := List.map_eq_cons_iff.mp openings
  exact .bracket (follows.colon.trans closed) split

/-- The fault of an incomplete document is at what is open. -/
theorem Reading.Follows.finish (follows : reading.Follows tokens)
    (finished : reading.finish = .error error) :
    ∃ position fault, error = .located position fault ∧
      IsFaultPlace tokens tokens.length position := by
  obtain ⟨wrapper, blocks, awaiting⟩ := reading
  cases awaiting with
  | declaration =>
    cases wrapper with
    | none => cases finished
    | some opened =>
      cases finished
      exact ⟨opened, _, rfl, follows.innermost rfl rfl⟩
  | body name =>
    cases wrapper with
    | none => cases finished
    | some opened =>
      cases finished
      exact ⟨opened, _, rfl, follows.innermost rfl rfl⟩
  | entry body comma =>
    cases finished
    exact ⟨body.opened, _, rfl, follows.innermost rfl rfl⟩
  | colon body key =>
    cases finished
    exact ⟨body.opened, _, rfl, follows.innermost rfl rfl⟩
  | value body key position =>
    cases finished
    exact ⟨position, _, rfl, .colon follows.colon⟩
  | nothing => cases finished

end Follows

/-! ### The fault of a document -/

/-- The fault of a document that is refused is at its first wrong token. -/
theorem firstWrong_of_readTokens {tokens : List Token} {error : SourceError}
    (read : readTokens tokens = .error error) :
    ∃ place position fault, error = .located position fault ∧
      IsLeast (wrongTokens (tokens.map Token.lexeme)) place ∧ IsFaultPlace tokens place position := by
  rcases refused_of_readTokens read with
    ⟨before, token, after, fault, rfl, rfl, begins, wrong⟩ |
    ⟨front, wrapper, rest, last, rfl, starts, ran, finished, begins, incomplete⟩
  · rw [List.map_append, List.map_singleton] at wrong
    have least := isLeast_token (after.map Token.lexeme) begins wrong
    rw [List.length_map, ← List.map_cons, ← List.map_append] at least
    refine ⟨_, _, fault, rfl, least, .token ?_⟩
    rw [List.getElem?_append_right (Nat.le_refl _), Nat.sub_self]
    rfl
  · obtain ⟨position, fault, rfl, place⟩ := (starts.follows.run ran).finish finished
    have least := isLeast_end begins incomplete
    rw [List.length_map] at least
    exact ⟨_, position, fault, rfl, least, place⟩

/-- **The first wrong token.** A source without lexical faults that is refused has one fault. With the first
token that is wrong, perhaps the end, no document begins any more: the fault is at that token, at the end
at the colon in front of it, else at the innermost bracket that is not closed. -/
theorem compile_firstWrong (source : Text) (errors : List SourceError)
    (clean : (scan source).errors = []) (refused : compile source none = .error errors) :
    ∃ place position fault, errors = [.located position fault] ∧
      IsLeast (wrongTokens ((scan source).tokens.map Token.lexeme)) place ∧
      IsFaultPlace (scan source).tokens place position := by
  rcases compileScan_eq_error_iff.mp refused with ⟨faulty, _⟩ | ⟨_, error, read, rfl⟩
  · exact absurd clean faulty
  · obtain ⟨place, position, fault, rfl, least, isPlace⟩ := firstWrong_of_readTokens read
    exact ⟨place, position, fault, rfl, least, isPlace⟩

/-- A source that ends in a body in its wrapper. -/
def brokenOffSource : Text := "layout \x7b faq hero(a: 1, b"

theorem compile_firstWrong_brokenOff :
    compile brokenOffSource none = .error [.located ⟨1, 18⟩ (.unterminatedBody .parenthesis)] ∧
      ∃ place, IsLeast (wrongTokens ((scan brokenOffSource).tokens.map Token.lexeme)) place ∧
        IsFaultPlace (scan brokenOffSource).tokens place ⟨1, 18⟩ := by
  have refused : compile brokenOffSource none =
      .error [.located ⟨1, 18⟩ (.unterminatedBody .parenthesis)] := by decide +kernel
  obtain ⟨place, position, fault, same, least, isPlace⟩ :=
    compile_firstWrong brokenOffSource _ (by decide +kernel) refused
  cases same
  exact ⟨refused, place, least, isPlace⟩

end BlockPage.Layout
