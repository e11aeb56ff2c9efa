/-
**An edit changes what it names, or nothing.**

An edit of one block is done or it fails, by a refusal or by saying so. It fails just when something is
unknown or unfit, and then the canvas is what it was. When it is done, what becomes of the canvas can be
said block by block.

* `Canvas.outcome`: the outcome of an edit as its caller sees it; `Canvas.Fails`: a refusal or a no.
* `Canvas.Changes`: what an edit does to the blocks; `Canvas.Refused`: why it does nothing.
* `Changes.outcome`, `changes_of_outcome`: edits that are done; `refused_or_changes`, `Refused.not_changes`:
  every edit is one of the two.
* `editsExactly`: all of this, for any canvas of checked blocks.
-/

import BlockPage.Proofs.Canvas.Sessions
import BlockPage.Proofs.Canvas.SingleEdits

namespace BlockPage

open OrderedMap

/-! ### Directions -/

/-- The word for a direction. -/
def Direction.word : Direction → Text
  | up => "up"
  | down => "down"

/-- Each direction has its own word. -/
theorem ofWord?_eq_some_iff {word : Text} {direction : Direction} :
    Direction.ofWord? word = some direction ↔ word = direction.word := by
  have different : Direction.up.word ≠ Direction.down.word := by decide
  show (if word = Direction.up.word then some .up
    else if word = Direction.down.word then some .down else none) = some direction ↔ _
  constructor
  · intro names
    split_ifs at names with isUp isDown
    · cases names
      exact isUp
    · cases names
      exact isDown
  · rintro rfl
    cases direction with
    | up => rw [if_pos rfl]
    | down => rw [if_neg different.symm, if_pos rfl]

/-- Two words name directions, and no other values do. -/
theorem ofValue_eq_ok_iff {value : Value} {direction : Direction} :
    Direction.ofValue value = .ok direction ↔ value = .text direction.word := by
  have names : value.text?.bind Direction.ofWord? = some direction ↔ value = .text direction.word := by
    rw [Option.bind_eq_some_iff]
    simp only [text?_eq_some_iff, ofWord?_eq_some_iff]
    constructor
    · rintro ⟨_, same, rfl⟩
      exact same
    · exact fun same => ⟨_, same, rfl⟩
  rw [← names]
  unfold Direction.ofValue
  constructor
  · intro passed
    split at passed
    · next named =>
      cases passed
      exact named
    · cases passed
    · cases passed
  · intro named
    rw [named]

/-! ### Outcomes -/

/-- The edit is of one block. -/
def Edit.IsSingle : Edit → Prop
  | .add .. | .remove _ | .move .. | .update .. => True
  | _ => False

/-- A registry that the edit takes blocks from has types under texts that blocks may have as types. -/
def Edit.IsNamed : Edit → Prop
  | .add registry .. => registry.IsNamed
  | _ => True

namespace Canvas

/-- All blocks on the canvas are checked, and so are their types. -/
def IsValid (canvas : Canvas) : Prop :=
  ∀ placement ∈ canvas.blocks, ∃ block, placement = .checked block ∧ Intake.IsTypeName block.typeId

/-- The canvas behind an edit and whether the edit was done, unless it is refused. -/
def outcome (canvas : Canvas) : Edit → Except Problem (Canvas × Bool)
  | .remove id => .ok (canvas.remove id)
  | .move id direction => (Direction.ofValue direction).map (canvas.move id)
  | .update id key value => canvas.update id key value
  | edit => (canvas.edit edit).map fun edited => (edited, true)

/-- The edit is refused or answered with a no. -/
def Fails (canvas : Canvas) (edit : Edit) : Prop :=
  (∃ problem, canvas.outcome edit = .error problem) ∨ ∃ edited, canvas.outcome edit = .ok (edited, false)

/-- Every edit is one that answers, less its answer. -/
theorem edit_eq (canvas : Canvas) (edit : Edit) : canvas.edit edit = (canvas.outcome edit).map Prod.fst := by
  cases edit with
  | move id direction =>
    show (Direction.ofValue direction).map _ = ((Direction.ofValue direction).map _).map _
    cases Direction.ofValue direction <;> rfl
  | add registry typeId behind config fresh =>
    show canvas.add registry typeId behind config fresh =
      ((canvas.add registry typeId behind config fresh).map _).map _
    cases canvas.add registry typeId behind config fresh <;> rfl
  | _ => rfl

/-- A refused edit leaves the canvas there. -/
theorem after_of_error {canvas : Canvas} {edit : Edit} {problem : Problem}
    (refused : canvas.outcome edit = .error problem) : canvas.after edit = canvas := by
  rw [after, edit_eq, refused]
  rfl

/-- Of an edit that answers, the canvas it made is there. -/
theorem after_of_ok {canvas edited : Canvas} {edit : Edit} {done : Bool}
    (passed : canvas.outcome edit = .ok (edited, done)) : canvas.after edit = edited := by
  rw [after, edit_eq, passed]
  rfl

/-! ### Changes -/

/-- What an edit of one block does to a canvas. -/
inductive Changes (canvas : Canvas) : Edit → Canvas → Prop
  /-- A new block comes last when no place is named. -/
  | append {registry : Registry} {typeId config : Value} {fresh : Text} {block : Block}
      (new : IsNew registry typeId config fresh block) :
      Changes canvas (.add registry typeId .absent config fresh)
        { canvas with blocks := canvas.blocks ++ [.checked block] }
  /-- It comes behind the first block with the handle that is named. -/
  | insert {registry : Registry} {typeId id config : Value} {fresh : Text} {block : Block}
      {before behind : List Placement} {here : Placement} (place : id ≠ .absent)
      (first : canvas.IsFirst id before here behind) (new : IsNew registry typeId config fresh block) :
      Changes canvas (.add registry typeId id config fresh)
        { canvas with blocks := before ++ here :: .checked block :: behind }
  /-- The first block with the handle is removed. -/
  | remove {id : Value} {before behind : List Placement} {here : Placement}
      (first : canvas.IsFirst id before here behind) :
      Changes canvas (.remove id) { canvas with blocks := before ++ behind }
  /-- The first block with the handle and the one above it change places. -/
  | moveUp {id : Value} {before behind : List Placement} {upper here : Placement}
      (first : canvas.IsFirst id (before ++ [upper]) here behind) :
      Changes canvas (.move id (.text "up")) { canvas with blocks := before ++ here :: upper :: behind }
  /-- The first block with the handle and the one below it change places. -/
  | moveDown {id : Value} {before behind : List Placement} {here lower : Placement}
      (first : canvas.IsFirst id before here (lower :: behind)) :
      Changes canvas (.move id (.text "down")) { canvas with blocks := before ++ lower :: here :: behind }
  /-- One entry of the first block with the handle is written. -/
  | update {id : Value} {before behind : List Placement} {block : Block} {config : Config} {name : Text}
      {scalar : Scalar} (first : canvas.IsFirst id before (.checked block) behind)
      (written : block.config.IsWritten name scalar config) :
      Changes canvas (.update id (.text name) (.scalar scalar))
        { canvas with blocks := before ++ .checked { block with config } :: behind }

/-- Why an edit of one block does nothing. -/
inductive Refused (canvas : Canvas) : Edit → Prop
  | unknownType {registry : Registry} {typeId behind config : Value} {fresh : Text}
      (unknown : ∀ name, typeId = .text name → registry.lookup? name = none) :
      Refused canvas (.add registry typeId behind config fresh)
  | unfitConfig {registry : Registry} {typeId behind config : Value} {fresh : Text}
      (unfit : ∀ given, ¬ GivenAs config given) :
      Refused canvas (.add registry typeId behind config fresh)
  | unknownPlace {registry : Registry} {typeId behind config : Value} {fresh : Text}
      (place : behind ≠ .absent) (lacks : canvas.Lacks behind) :
      Refused canvas (.add registry typeId behind config fresh)
  | unknownRemoved {id : Value} (lacks : canvas.Lacks id) : Refused canvas (.remove id)
  | unknownMoved {id direction : Value} (lacks : canvas.Lacks id) : Refused canvas (.move id direction)
  | badDirection {id direction : Value} (notUp : direction ≠ .text "up") (notDown : direction ≠ .text "down") :
      Refused canvas (.move id direction)
  | top {id : Value} {here : Placement} {behind : List Placement} (first : canvas.IsFirst id [] here behind) :
      Refused canvas (.move id (.text "up"))
  | bottom {id : Value} {before : List Placement} {here : Placement} (first : canvas.IsFirst id before here []) :
      Refused canvas (.move id (.text "down"))
  | unknownUpdated {id key value : Value} (lacks : canvas.Lacks id) : Refused canvas (.update id key value)
  | unfitKey {id key value : Value} (unfit : ∀ name, key ≠ .text name) : Refused canvas (.update id key value)
  | unfitValue {id key value : Value} (unfit : ∀ scalar, value ≠ .scalar scalar) :
      Refused canvas (.update id key value)

section Outcomes

variable {canvas edited : Canvas} {edit : Edit}

/-- What is valid is checked. -/
theorem IsValid.isChecked (valid : canvas.IsValid) : canvas.IsChecked := fun placement inside =>
  (valid placement inside).imp fun _ => And.left

/-- The first block with a handle is one of the blocks. -/
theorem IsFirst.mem {id : Value} {before behind : List Placement} {here : Placement}
    (first : canvas.IsFirst id before here behind) : here ∈ canvas.blocks :=
  first.blocks ▸ List.mem_append_right before (.head behind)

/-- An edit that changes something is done. -/
theorem Changes.outcome (changes : Changes canvas edit edited) (valid : canvas.IsValid)
    (named : edit.IsNamed) : canvas.outcome edit = .ok (edited, true) := by
  cases changes with
  | append new =>
    exact congrArg (Except.map _) (add_last_eq_ok_iff.mpr ⟨_, new.isMade named, rfl⟩)
  | insert place first new =>
    exact congrArg (Except.map _) ((add_behind_eq_ok_iff place first).mpr ⟨_, new.isMade named, rfl⟩)
  | remove first => exact congrArg Except.ok (remove_of_isFirst first)
  | moveUp first => exact congrArg Except.ok (move_up_of_isFirst first)
  | moveDown first => exact congrArg Except.ok (move_down_of_isFirst first)
  | @update id before behind block config name scalar first written =>
    obtain ⟨_, ⟨⟩, typeName⟩ := valid _ first.mem
    obtain rfl := isWritten_iff.mp written
    have made := updateBlock_eq_ok_iff.mpr ⟨typeName, name, scalar, rfl, rfl, rfl⟩
    rw [outcome, update_of_isFirst first, made]
    rfl

/-- An edit that is done changes something. -/
theorem changes_of_outcome (checked : canvas.IsChecked) (single : edit.IsSingle)
    (done : canvas.outcome edit = .ok (edited, true)) : Changes canvas edit edited := by
  cases edit with
  | add registry typeId behind config fresh =>
    obtain ⟨added, passed, same⟩ := exists_of_map_eq_ok done
    cases same
    by_cases place : behind = .absent
    · subst place
      obtain ⟨block, made, rfl⟩ := add_last_eq_ok_iff.mp passed
      exact .append made.isNew
    · rcases canvas.lacks_or_isFirst behind with lacks | ⟨front, here, back, first⟩
      · exact absurd passed (add_of_lacks place lacks)
      · obtain ⟨block, made, rfl⟩ := (add_behind_eq_ok_iff place first).mp passed
        exact .insert place first made.isNew
  | remove id =>
    rcases canvas.lacks_or_isFirst id with lacks | ⟨before, here, behind, first⟩
    · rw [outcome, remove_of_lacks lacks] at done
      cases done
    · rw [outcome, remove_of_isFirst first] at done
      cases done
      exact .remove first
  | move id value =>
    obtain ⟨direction, named, moved⟩ := exists_of_map_eq_ok done
    obtain rfl := ofValue_eq_ok_iff.mp named
    rcases canvas.lacks_or_isFirst id with lacks | ⟨before, here, behind, first⟩
    · rw [move_of_lacks lacks] at moved
      cases moved
    · -- the neighbour on the side of the direction decides
      cases direction with
      | up =>
        rcases before.eq_nil_or_concat' with rfl | ⟨before, upper, rfl⟩
        · rw [move_up_of_top first] at moved
          cases moved
        · rw [move_up_of_isFirst first] at moved
          cases moved
          exact .moveUp first
      | down =>
        cases behind with
        | nil =>
          rw [move_down_of_end first] at moved
          cases moved
        | cons lower behind =>
          rw [move_down_of_isFirst first] at moved
          cases moved
          exact .moveDown first
  | update id key value =>
    rcases canvas.lacks_or_isFirst id with lacks | ⟨before, here, behind, first⟩
    · rw [outcome, update_of_lacks lacks] at done
      cases done
    · obtain ⟨block, rfl⟩ := checked here first.mem
      rw [outcome, update_of_isFirst first] at done
      obtain ⟨updated, made, same⟩ := exists_of_map_eq_ok done
      cases same
      obtain ⟨_, name, scalar, rfl, rfl, rfl⟩ := updateBlock_eq_ok_iff.mp made
      exact .update first (isWritten_iff.mpr rfl)
  | _ => exact single.elim

/-- An edit that is answered with a no changes nothing. -/
theorem eq_of_outcome (single : edit.IsSingle) (answered : canvas.outcome edit = .ok (edited, false)) :
    edited = canvas := by
  cases edit with
  | add registry typeId behind config fresh =>
    obtain ⟨added, _, same⟩ := exists_of_map_eq_ok answered
    cases same
  | remove id =>
    rcases canvas.lacks_or_isFirst id with lacks | ⟨before, here, behind, first⟩
    · rw [outcome, remove_of_lacks lacks] at answered
      cases answered
      rfl
    · rw [outcome, remove_of_isFirst first] at answered
      cases answered
  | move id value =>
    obtain ⟨direction, _, answered⟩ := exists_of_map_eq_ok answered
    unfold move at answered
    dsimp only at answered
    split at answered
    · cases answered
      rfl
    · cases answered
  | update id key value =>
    rcases update_eq_ok answered with same | ⟨_, _, same⟩
    · cases same
      rfl
    · cases same
  | _ => exact single.elim

/-- An edit changes something or nothing. -/
theorem after_cases (checked : canvas.IsChecked) (single : edit.IsSingle) :
    canvas.after edit = canvas ∨ Changes canvas edit (canvas.after edit) := by
  cases passed : canvas.outcome edit with
  | error problem => exact .inl (after_of_error passed)
  | ok answer =>
    obtain ⟨edited, done⟩ := answer
    rw [after_of_ok passed]
    cases done with
    | false => exact .inl (eq_of_outcome single passed)
    | true => exact .inr (changes_of_outcome checked single passed)

/-! ### Refusals -/

/-- A new block can be made of a registered type with a configuration that can be read as entries. -/
theorem exists_isNew_iff {registry : Registry} {typeId config : Value} {fresh : Text} :
    (∃ block, IsNew registry typeId config fresh block) ↔
      (∃ name definition, typeId = .text name ∧ registry.lookup? name = some definition) ∧
        ∃ given, GivenAs config given := by
  constructor
  · rintro ⟨block, type, ⟨definition, given, registered, givenAs, _⟩, _⟩
    exact ⟨⟨block.typeId, definition, type, registered⟩, given, givenAs⟩
  · rintro ⟨⟨name, definition, type, registered⟩, given, givenAs⟩
    exact ⟨⟨name, definition.defaults.overlay given, some fresh⟩, type,
      ⟨definition, given, registered, givenAs, isOverlay_overlay _ _⟩, rfl⟩

/-- What is not refused changes something. -/
theorem refused_or_changes (checked : canvas.IsChecked) (single : edit.IsSingle) :
    Refused canvas edit ∨ ∃ edited, Changes canvas edit edited := by
  cases edit with
  | add registry typeId behind config fresh =>
    by_cases known : ∃ name definition, typeId = .text name ∧ registry.lookup? name = some definition
    · by_cases fit : ∃ given, GivenAs config given
      · obtain ⟨block, new⟩ : ∃ block, IsNew registry typeId config fresh block :=
          exists_isNew_iff.mpr ⟨known, fit⟩
        by_cases place : behind = .absent
        · subst place
          exact .inr ⟨_, .append new⟩
        · rcases canvas.lacks_or_isFirst behind with lacks | ⟨front, here, back, first⟩
          · exact .inl (.unknownPlace place lacks)
          · exact .inr ⟨_, .insert place first new⟩
      · exact .inl (.unfitConfig fun given givenAs => fit ⟨given, givenAs⟩)
    · refine .inl (.unknownType fun name same => Option.eq_none_iff_forall_ne_some.mpr ?_)
      exact fun definition registered => known ⟨name, definition, same, registered⟩
  | remove id =>
    rcases canvas.lacks_or_isFirst id with lacks | ⟨before, here, behind, first⟩
    · exact .inl (.unknownRemoved lacks)
    · exact .inr ⟨_, .remove first⟩
  | move id direction =>
    rcases canvas.lacks_or_isFirst id with lacks | ⟨before, here, behind, first⟩
    · exact .inl (.unknownMoved lacks)
    · by_cases isUp : direction = .text "up"
      · subst isUp
        rcases before.eq_nil_or_concat' with rfl | ⟨before, upper, rfl⟩
        · exact .inl (.top first)
        · exact .inr ⟨_, .moveUp first⟩
      · by_cases isDown : direction = .text "down"
        · subst isDown
          cases behind with
          | nil => exact .inl (.bottom first)
          | cons lower behind => exact .inr ⟨_, .moveDown first⟩
        · exact .inl (.badDirection isUp isDown)
  | update id key value =>
    rcases canvas.lacks_or_isFirst id with lacks | ⟨before, here, behind, first⟩
    · exact .inl (.unknownUpdated lacks)
    · obtain ⟨block, rfl⟩ := checked here first.mem
      by_cases text : ∃ name, key = .text name
      · by_cases scalar : ∃ scalar, value = .scalar scalar
        · obtain ⟨name, rfl⟩ := text
          obtain ⟨scalar, rfl⟩ := scalar
          exact .inr ⟨_, .update first (isWritten_iff.mpr rfl)⟩
        · exact .inl (.unfitValue fun other same => scalar ⟨other, same⟩)
      · exact .inl (.unfitKey fun name same => text ⟨name, same⟩)
  | _ => exact single.elim

/-- What is refused changes nothing. -/
theorem Refused.not_changes (refused : Refused canvas edit) : ¬ Changes canvas edit edited := by
  intro changes
  cases refused with
  | unknownType unknown =>
    cases changes with
    | append new | insert _ _ new =>
      obtain ⟨_, _, registered, _⟩ := new.config
      rw [unknown _ new.type] at registered
      cases registered
  | unfitConfig unfit =>
    cases changes with
    | append new | insert _ _ new =>
      obtain ⟨_, given, _, givenAs, _⟩ := new.config
      exact unfit given givenAs
  | unknownPlace place lacks =>
    cases changes with
    | append => exact place rfl
    | insert _ first => exact lacks.not_isFirst first
  | unknownRemoved lacks =>
    cases changes with
    | remove first => exact lacks.not_isFirst first
  | unknownMoved lacks =>
    cases changes with
    | moveUp first | moveDown first => exact lacks.not_isFirst first
  | badDirection notUp notDown =>
    cases changes with
    | moveUp => exact notUp rfl
    | moveDown => exact notDown rfl
  | top first =>
    generalize word : Value.text "up" = direction at changes
    cases changes with
    | moveUp other =>
      have nothing := (first.unique other).1
      simp at nothing
    | moveDown => cases word
  | bottom first =>
    generalize word : Value.text "down" = direction at changes
    cases changes with
    | moveUp => cases word
    | moveDown other =>
      have nothing := (first.unique other).2.2
      cases nothing
  | unknownUpdated lacks =>
    cases changes with
    | update first => exact lacks.not_isFirst first
  | unfitKey unfit =>
    cases changes with
    | update => exact unfit _ rfl
  | unfitValue unfit =>
    cases changes with
    | update => exact unfit _ rfl

end Outcomes

/-! ### Every edit -/

/-- What edits of one block do to a canvas. -/
structure EditsExactly (canvas : Canvas) (edit : Edit) : Prop where
  /-- What is done changes what is named. -/
  done_iff : ∀ edited, canvas.outcome edit = .ok (edited, true) ↔ Changes canvas edit edited
  /-- It is what the canvas is then. -/
  after_eq : ∀ edited, canvas.outcome edit = .ok (edited, true) → canvas.after edit = edited
  /-- What fails has a reason. -/
  fails_iff : canvas.Fails edit ↔ Refused canvas edit
  /-- What fails changes nothing. For a refusal this is how `Canvas.after` is defined; it says something of
  edits that are answered with a no. -/
  unchanged : canvas.Fails edit → canvas.after edit = canvas

/-- **An edit changes what it names, or nothing.** -/
theorem editsExactly (canvas : Canvas) (edit : Edit) (valid : canvas.IsValid) (single : edit.IsSingle)
    (named : edit.IsNamed) : canvas.EditsExactly edit where
  done_iff _ := ⟨changes_of_outcome valid.isChecked single, fun changes => changes.outcome valid named⟩
  after_eq _ := after_of_ok
  fails_iff := by
    constructor
    · intro fails
      rcases refused_or_changes valid.isChecked single with refused | ⟨edited, changes⟩
      · exact refused
      · have done := changes.outcome valid named
        rcases fails with ⟨_, failed⟩ | ⟨_, failed⟩
        · rw [done] at failed
          cases failed
        · rw [done] at failed
          cases failed
    · intro refused
      cases passed : canvas.outcome edit with
      | error problem => exact .inl ⟨problem, passed⟩
      | ok answer =>
        obtain ⟨edited, done⟩ := answer
        cases done with
        | false => exact .inr ⟨edited, passed⟩
        | true => exact absurd (changes_of_outcome valid.isChecked single passed) refused.not_changes
  unchanged := by
    rintro (⟨_, refused⟩ | ⟨edited, answered⟩)
    · exact after_of_error refused
    · rw [after_of_ok answered, eq_of_outcome single answered]

/-- Two blocks under one handle. -/
def twins : Canvas where
  blocks := [.checked ⟨"note", ∅, some "a"⟩, .checked ⟨"quote", ∅, some "a"⟩]

/-- A note is put behind the first of them, one of its two defaults replaced. -/
def noteBehindTwin : Edit :=
  let note : Definition :=
    { typeId := "note", name := "Note", defaults := .ofList [("size", .integer 1), ("title", .text "New")],
      html := Template.empty }
  .add ((Registry.empty .absent).register note) (.text "note") (.text "a")
    (.ofConfig (.ofList [("size", .integer 3)])) "b"

theorem editsExactly_twins :
    twins.IsValid ∧ noteBehindTwin.IsSingle ∧ noteBehindTwin.IsNamed ∧
      (twins.after noteBehindTwin).blocks.length = 3 ∧ twins.EditsExactly noteBehindTwin := by
  have valid : twins.IsValid := by
    intro placement inside
    rcases List.mem_pair.mp inside with rfl | rfl
    · exact ⟨_, rfl, by decide⟩
    · exact ⟨_, rfl, by decide⟩
  have named : noteBehindTwin.IsNamed := by
    intro definition inside
    obtain rfl := List.mem_singleton.mp inside
    decide
  have three : (twins.after noteBehindTwin).blocks.length = 3 := by decide +kernel
  exact ⟨valid, trivial, named, three, editsExactly twins noteBehindTwin valid trivial named⟩

end Canvas

end BlockPage
