/-
**Editing sessions.**

A session is a sequence of edits of an empty canvas. An edit that is refused leaves the canvas as it is.
Blocks are checked when they are made, and only made by edits; so all blocks on a canvas are checked,
however it came about.

* `Edit`, `Canvas.edit`: the edits, each with the handles that are drawn for it, and what they do.
* `Canvas.after`, `Canvas.session`: the canvas behind an edit, refused or not, and behind a session.
* `perm_of_exchange`: a move only changes the order.
* `Canvas.IsChecked`, `isChecked_after`, `isChecked_session`: what every edit preserves, and every session.
-/

import BlockPage.Canvas
import BlockPage.Proofs.Traversal

namespace BlockPage

/-! ### Edits -/

/-- An edit of a canvas. Blocks that are put in place of others have been checked. -/
inductive Edit where
  | add (registry : Registry) (typeId behind config : Value) (fresh : Text)
  | remove (id : Value)
  | move (id direction : Value)
  | update (id key value : Value)
  | replace (blocks : List Block) (fresh : Nat → Text)
  | load (generator : Generator) (source : Text) (fresh : Nat → Text)
  | clear
  | keep (output : Output)

namespace Canvas

/-- The canvas behind an edit, unless the edit is refused. -/
def edit (canvas : Canvas) : Edit → Except Problem Canvas
  | .add registry typeId behind config fresh => canvas.add registry typeId behind config fresh
  | .remove id => .ok (canvas.remove id).1
  | .move id direction =>
    (Direction.ofValue direction).map fun direction => (canvas.move id direction).1
  | .update id key value => (canvas.update id key value).map Prod.fst
  | .replace blocks fresh => .ok (canvas.replaceBlocks (blocks.map .checked) fresh)
  | .load generator source fresh => .ok (canvas.importLayout generator source fresh).1
  | .clear => .ok canvas.clear
  | .keep output => .ok (canvas.setGenerated output)

/-- The canvas behind an edit. An operation looks at all that it needs before it puts new blocks in place of
the old ones, so a refusal comes without a canvas, and the one before the edit stays by this definition. -/
def after (canvas : Canvas) (edit : Edit) : Canvas :=
  match canvas.edit edit with
  | .ok edited => edited
  | .error _ => canvas

/-- The canvas behind a session. -/
def session (edits : List Edit) : Canvas := edits.foldl after {}

/-! ### Single edits -/

/-- Items only change their places. -/
theorem perm_of_exchange {α : Type} {index : Nat} {items moved : List α}
    (exchanged : exchange index items = some moved) : moved.Perm items := by
  unfold exchange at exchanged
  split at exchanged
  · next first second rest split =>
    cases exchanged
    have swapped : (second :: first :: rest).Perm (items.drop index) := split ▸ .swap first second rest
    exact (swapped.append_left (items.take index)).trans (.of_eq (List.take_append_drop index items))
  · cases exchanged

/-- A move leaves the same blocks on the canvas. -/
theorem perm_move (canvas : Canvas) (id : Value) (direction : Direction) :
    (canvas.move id direction).1.blocks.Perm canvas.blocks := by
  unfold move
  dsimp only
  split
  · exact .refl _
  · next moved found =>
    obtain ⟨index, _, exchanged⟩ := Option.bind_eq_some_iff.mp found
    split at exchanged
    · exact perm_of_exchange exchanged
    · cases exchanged
    · exact perm_of_exchange exchanged

/-- What is added is one checked block. -/
theorem add_eq_ok {canvas added : Canvas} {registry : Registry} {typeId behind config : Value}
    {fresh : Text} (passed : canvas.add registry typeId behind config fresh = .ok added) :
    ∃ block count, added = canvas.insertAt count block := by
  obtain ⟨overrides, _, passed⟩ := bind_eq_ok_iff.mp passed
  obtain ⟨block, _, passed⟩ := bind_eq_ok_iff.mp passed
  split at passed
  · cases passed
    exact ⟨block, canvas.blocks.length, by simp [insertAt]⟩
  · split at passed
    · cases passed
    · next index _ =>
      cases passed
      exact ⟨block, index + 1, rfl⟩

/-- What is updated is one block, which is checked again. -/
theorem update_eq_ok {canvas : Canvas} {id key value : Value} {updated : Canvas × Bool}
    (passed : canvas.update id key value = .ok updated) :
    updated = (canvas, false) ∨ ∃ index block,
      updated = ({ canvas with blocks := canvas.blocks.set index (.checked block) }, true) := by
  unfold update at passed
  split at passed
  · next index placement _ _ =>
    obtain ⟨block, _, passed⟩ := bind_eq_ok_iff.mp passed
    cases passed
    exact .inr ⟨index, block, rfl⟩
  · cases passed
    exact .inl rfl

/-- A checked block stays checked under a handle. -/
theorem withHandle_checked (block : Block) (fresh : Text) :
    ∃ id, withHandle (.checked block) fresh = .checked { block with instanceId := id } := by
  unfold withHandle
  split
  · exact ⟨block.instanceId, rfl⟩
  · exact ⟨some fresh, rfl⟩

/-! ### Checked blocks -/

/-- All blocks on the canvas are checked. -/
def IsChecked (canvas : Canvas) : Prop := ∀ placement ∈ canvas.blocks, ∃ block, placement = .checked block

/-- A checked canvas is a list of checked blocks. -/
theorem isChecked_iff {canvas : Canvas} :
    canvas.IsChecked ↔ ∃ blocks : List Block, canvas.blocks = blocks.map .checked := by
  constructor
  · unfold IsChecked
    induction canvas.blocks with
    | nil => exact fun _ => ⟨[], rfl⟩
    | cons first rest ih =>
      intro checked
      obtain ⟨block, rfl⟩ := checked first (.head _)
      obtain ⟨blocks, same⟩ := ih fun placement inside => checked placement (.tail _ inside)
      exact ⟨block :: blocks, by rw [same, List.map_cons]⟩
  · rintro ⟨blocks, same⟩ placement inside
    rw [same] at inside
    obtain ⟨block, _, rfl⟩ := List.mem_map.mp inside
    exact ⟨block, rfl⟩

section IsChecked

variable {canvas : Canvas}

/-- A checked block may be put anywhere. -/
theorem isChecked_insertAt (checked : canvas.IsChecked) (count : Nat) (block : Block) :
    (canvas.insertAt count block).IsChecked := by
  intro placement inside
  rcases List.mem_append.mp inside with front | behind
  · exact checked placement (List.mem_of_mem_take front)
  · rcases List.mem_cons.mp behind with rfl | back
    · exact ⟨block, rfl⟩
    · exact checked placement (List.mem_of_mem_drop back)

/-- Checked blocks may replace all others. -/
theorem isChecked_replaceBlocks (canvas : Canvas) (blocks : List Block) (fresh : Nat → Text) :
    (canvas.replaceBlocks (blocks.map .checked) fresh).IsChecked := by
  intro placement inside
  obtain ⟨index, _, rfl⟩ := List.mem_mapIdx.mp inside
  rw [List.getElem_map]
  obtain ⟨id, same⟩ := withHandle_checked _ (fresh index)
  exact ⟨_, same⟩

/-- An edit that is not refused leaves checked blocks. -/
theorem isChecked_edit (checked : canvas.IsChecked) {edit : Edit} {edited : Canvas}
    (passed : canvas.edit edit = .ok edited) : edited.IsChecked := by
  cases edit with
  | add registry typeId behind config fresh =>
    obtain ⟨block, count, rfl⟩ := add_eq_ok passed
    exact isChecked_insertAt checked count block
  | remove id =>
    cases passed
    unfold remove
    split
    · exact checked
    · exact fun placement inside => checked placement (List.mem_of_mem_eraseIdx inside)
  | move id direction =>
    obtain ⟨direction, _, rfl⟩ := exists_of_map_eq_ok passed
    exact fun placement inside => checked placement ((perm_move canvas id direction).mem_iff.mp inside)
  | update id key value =>
    obtain ⟨updated, made, rfl⟩ := exists_of_map_eq_ok passed
    rcases update_eq_ok made with rfl | ⟨index, block, rfl⟩
    · exact checked
    · intro placement inside
      rcases List.mem_or_eq_of_mem_set inside with old | rfl
      · exact checked placement old
      · exact ⟨block, rfl⟩
  | replace blocks fresh =>
    cases passed
    exact isChecked_replaceBlocks canvas blocks fresh
  | load generator source fresh =>
    cases passed
    unfold importLayout
    split
    · exact isChecked_replaceBlocks canvas _ fresh
    · exact checked
  | clear =>
    cases passed
    exact fun _ inside => nomatch inside
  | keep output =>
    cases passed
    exact checked

/-- An edit keeps a canvas checked, whether it is done or refused. -/
theorem isChecked_after (checked : canvas.IsChecked) (edit : Edit) : (canvas.after edit).IsChecked := by
  unfold after
  split
  · next passed => exact isChecked_edit checked passed
  · exact checked

end IsChecked

/-- **All blocks of a session are checked.** -/
theorem isChecked_session (edits : List Edit) : (session edits).IsChecked := by
  have from_checked : ∀ canvas : Canvas, canvas.IsChecked → (edits.foldl after canvas).IsChecked := by
    induction edits with
    | nil => exact fun _ checked => checked
    | cons first rest ih => exact fun _ checked => ih _ (isChecked_after checked first)
  exact from_checked {} fun _ inside => nomatch inside

end Canvas

end BlockPage
