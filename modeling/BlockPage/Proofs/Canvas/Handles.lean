/-
**Handles identify blocks.**

A session draws handles from a supply that never gives one twice, and puts blocks in place of others only
from a source or from a canvas of its own past. Blocks that are brought back may have been removed long ago;
so it does not count which handles are in use, but that every handle ever seen was drawn in an earlier action.

* `Action`, `Timeline`: what is done in a session, and all canvases that it has seen.
* `AreIdentified`: blocks under handles that are not empty, no two under the same.
* `AreDrawn`: blocks under distinct handles that were drawn before a given action; what edits preserve.
* `Timeline.isDrawn_step`, `Timeline.isDrawn_run`: one action, and a session.
* `Canvas.HandlesIdentify`, `handlesIdentify_run`: what handles are good for, behind any session.
-/

import BlockPage.Proofs.Canvas.ExactChanges
import BlockPage.Proofs.Canvas.Importing
import Mathlib.Logic.Function.Basic

namespace BlockPage

open Canvas OrderedMap

/-! ### Sessions with a past -/

/-- What is done in a session. Blocks are put in place of others from a source or from an earlier canvas. -/
inductive Action where
  | add (registry : Registry) (typeId behind config : Value)
  | remove (id : Value)
  | move (id direction : Value)
  | update (id key value : Value)
  | load (generator : Generator) (source : Text)
  | restore (moment : Nat)
  | clear
  | keep (output : Output)

/-- The canvas of a session and all canvases that were there before, from the first on. -/
structure Timeline where
  past : List Canvas := []
  present : Canvas := {}

namespace Timeline

/-- All canvases of the session. -/
def moments (timeline : Timeline) : List Canvas := timeline.past ++ [timeline.present]

/-- The canvas behind an action, with the handles that are drawn for it. -/
def next (timeline : Timeline) (drawn : Nat → Text) : Action → Canvas
  | .add registry typeId behind config => timeline.present.after (.add registry typeId behind config (drawn 0))
  | .remove id => timeline.present.after (.remove id)
  | .move id direction => timeline.present.after (.move id direction)
  | .update id key value => timeline.present.after (.update id key value)
  | .load generator source => timeline.present.after (.load generator source drawn)
  | .restore moment =>
    match timeline.moments[moment]? with
    | none => timeline.present
    | some earlier => timeline.present.replaceBlocks earlier.blocks drawn
  | .clear => timeline.present.after .clear
  | .keep output => timeline.present.after (.keep output)

/-- One more action. The supply has handles for each action and each place. -/
def step (supply : Nat → Nat → Text) (timeline : Timeline) (action : Action) : Timeline :=
  ⟨timeline.moments, timeline.next (supply timeline.past.length) action⟩

/-- A session from the empty canvas on. -/
def run (supply : Nat → Nat → Text) (actions : List Action) : Timeline := actions.foldl (step supply) {}

end Timeline

/-! ### Blocks under handles -/

/-- All blocks are under handles that are not empty, no two under the same. -/
structure AreIdentified (placements : List Placement) : Prop where
  filled : ∀ placement ∈ placements, ∃ handle, handle ≠ [] ∧ placement.instanceId = .text handle
  distinct : (placements.map Placement.instanceId).Nodup

/-- All blocks are checked and under handles that were drawn before an action, no two under the same. -/
structure AreDrawn (supply : Nat → Nat → Text) (count : Nat) (placements : List Placement) : Prop where
  drawn : ∀ placement ∈ placements, ∃ block moment place, placement = .checked block ∧ moment < count ∧
    block.instanceId = some (supply moment place)
  distinct : (placements.map Placement.instanceId).Nodup

section AreIdentified

variable {placements : List Placement}

/-- Fewer blocks still have handles of their own. -/
theorem AreIdentified.sublist (identified : AreIdentified placements) {others : List Placement}
    (within : others.Sublist placements) : AreIdentified others where
  filled placement inside := identified.filled placement (within.subset inside)
  distinct := identified.distinct.sublist (within.map _)

/-- A block answers to its own handle only. -/
theorem AreIdentified.hasHandle_iff (identified : AreIdentified placements) {placement : Placement}
    (inside : placement ∈ placements) {id : Value} :
    hasHandle id placement = true ↔ id = placement.instanceId := by
  obtain ⟨handle, _, same⟩ := identified.filled placement inside
  rw [hasHandle, same, text_equal_iff]

/-- Every block is found under its handle. -/
theorem AreIdentified.find? {canvas : Canvas} (identified : AreIdentified canvas.blocks)
    {placement : Placement} (inside : placement ∈ canvas.blocks) :
    canvas.find? placement.instanceId = some placement := by
  rcases canvas.lacks_or_isFirst placement.instanceId with lacks | ⟨before, here, behind, first⟩
  · have other := lacks placement inside
    rw [(identified.hasHandle_iff inside).mpr rfl] at other
    cases other
  · have same := (identified.hasHandle_iff first.mem).mp first.named
    rw [first.find?, List.inj_on_of_nodup_map identified.distinct first.mem inside same.symm]

end AreIdentified

section AreDrawn

variable {supply : Nat → Nat → Text} {count : Nat} {placements others : List Placement}

/-- Handles that were drawn tell blocks apart. -/
theorem AreDrawn.isIdentified (drawn : AreDrawn supply count placements)
    (filled : ∀ moment place, supply moment place ≠ []) : AreIdentified placements where
  filled placement inside := by
    obtain ⟨block, moment, place, rfl, _, handle⟩ := drawn.drawn placement inside
    refine ⟨supply moment place, filled moment place, ?_⟩
    rw [Placement.instanceId, handle]
    rfl
  distinct := drawn.distinct

theorem AreDrawn.mono (drawn : AreDrawn supply count placements) {later : Nat} (ordered : count ≤ later) :
    AreDrawn supply later placements where
  drawn placement inside := by
    obtain ⟨block, moment, place, checked, before, handle⟩ := drawn.drawn placement inside
    exact ⟨block, moment, place, checked, Nat.lt_of_lt_of_le before ordered, handle⟩
  distinct := drawn.distinct

/-- Fewer blocks are still under drawn handles. -/
theorem AreDrawn.sublist (drawn : AreDrawn supply count placements) (within : others.Sublist placements) :
    AreDrawn supply count others where
  drawn placement inside := drawn.drawn placement (within.subset inside)
  distinct := drawn.distinct.sublist (within.map _)

/-- The order of blocks does not matter. -/
theorem AreDrawn.perm (drawn : AreDrawn supply count placements) (same : others.Perm placements) :
    AreDrawn supply count others where
  drawn placement inside := drawn.drawn placement (same.mem_iff.mp inside)
  distinct := (same.map _).nodup_iff.mpr drawn.distinct

/-- A block under a handle that is drawn now has a handle of its own. -/
theorem AreDrawn.cons (drawn : AreDrawn supply count placements) (injective : Function.Injective2 supply)
    {block : Block} {place : Nat} (handle : block.instanceId = some (supply count place)) :
    AreDrawn supply (count + 1) (.checked block :: placements) where
  drawn placement inside := by
    rcases List.mem_cons.mp inside with rfl | inside
    · exact ⟨block, count, place, rfl, Nat.lt_succ_self count, handle⟩
    · exact (drawn.mono (Nat.le_succ count)).drawn placement inside
  distinct := by
    refine List.nodup_cons.mpr ⟨fun listed => ?_, drawn.distinct⟩
    obtain ⟨placement, inside, same⟩ := List.mem_map.mp listed
    obtain ⟨other, moment, place', rfl, before, handle'⟩ := drawn.drawn placement inside
    rw [Placement.instanceId, Placement.instanceId, handle, handle'] at same
    have drawnNow := (injective (Scalar.text.inj (Value.scalar.inj same))).1
    exact Nat.ne_of_lt before drawnNow

/-- A block in place of another under the same handle. -/
theorem AreDrawn.exchange {before behind : List Placement} {block updated : Block}
    (drawn : AreDrawn supply count (before ++ .checked block :: behind))
    (same : updated.instanceId = block.instanceId) :
    AreDrawn supply count (before ++ .checked updated :: behind) where
  drawn placement inside := by
    rcases List.mem_append.mp inside with front | back
    · exact drawn.drawn placement (List.mem_append_left _ front)
    · rcases List.mem_cons.mp back with rfl | back
      · obtain ⟨_, moment, place, ⟨⟩, earlier, handle⟩ :=
          drawn.drawn (.checked block) (List.mem_append_right _ (.head _))
        exact ⟨updated, moment, place, rfl, earlier, same.trans handle⟩
      · exact drawn.drawn placement (List.mem_append_right _ (.tail _ back))
  distinct := by
    have handles := drawn.distinct
    rw [List.map_append, List.map_cons] at handles ⊢
    rwa [Placement.instanceId, same]

/-- Imported blocks take handles that are drawn now. -/
theorem areDrawn_underHandles (injective : Function.Injective2 supply) (blocks : List Block) :
    AreDrawn supply (count + 1) (underHandles blocks (supply count)) where
  drawn placement inside := by
    obtain ⟨place, _, rfl⟩ := List.mem_mapIdx.mp inside
    exact ⟨_, count, place, rfl, Nat.lt_succ_self count, rfl⟩
  distinct := by
    have handles : (underHandles blocks (supply count)).map Placement.instanceId =
        (List.range blocks.length).map fun place => .text (supply count place) := by
      refine List.ext_getElem (by simp [underHandles]) fun place bound bound' => ?_
      simp [underHandles, Placement.instanceId, Value.ofOption]
    rw [handles]
    refine List.nodup_range.map fun first second same => ?_
    exact (injective (Scalar.text.inj (Value.scalar.inj same))).2

/-- Blocks under handles are put back as they were. -/
theorem replaceBlocks_of_areIdentified (canvas : Canvas) (identified : AreIdentified placements)
    (fresh : Nat → Text) : canvas.replaceBlocks placements fresh = { canvas with blocks := placements } := by
  have kept : placements.mapIdx (fun place placement => withHandle placement (fresh place)) = placements := by
    refine List.ext_getElem (List.length_mapIdx) fun place bound bound' => ?_
    obtain ⟨handle, filled, same⟩ := identified.filled placements[place] (List.getElem_mem bound')
    have truthy : placements[place].instanceId.isTruthy = true := by
      rw [same]
      simpa [Value.text, Value.isTruthy, Scalar.isTruthy] using filled
    rw [List.getElem_mapIdx, withHandle, if_pos truthy]
  rw [replaceBlocks, kept]

/-! ### Actions -/

/-- Blocks under drawn handles are checked. -/
theorem AreDrawn.isChecked {canvas : Canvas} (drawn : AreDrawn supply count canvas.blocks) :
    canvas.IsChecked := fun placement inside => by
  obtain ⟨block, _, _, checked, _⟩ := drawn.drawn placement inside
  exact ⟨block, checked⟩

/-- An edit of one block keeps all handles but the one that it may draw. -/
theorem AreDrawn.changes {canvas edited : Canvas} {edit : Edit} (drawn : AreDrawn supply count canvas.blocks)
    (injective : Function.Injective2 supply) (changes : Changes canvas edit edited)
    (fresh : ∀ registry typeId behind config handle, edit = .add registry typeId behind config handle →
      handle = supply count 0) : AreDrawn supply (count + 1) edited.blocks := by
  have later := drawn.mono (Nat.le_succ count)
  cases changes with
  | append new =>
    have handle := new.handle.trans (congrArg some (fresh _ _ _ _ _ rfl))
    exact (drawn.cons injective handle).perm (List.perm_append_singleton _ _)
  | @insert _ _ _ _ _ block before behind here _ first new =>
    have handle := new.handle.trans (congrArg some (fresh _ _ _ _ _ rfl))
    -- the place of the new block does not count, as no handle but its own is new
    have inserted : (before ++ here :: .checked block :: behind).Perm (.checked block :: canvas.blocks) := by
      have middle : ((before ++ [here]) ++ .checked block :: behind).Perm
          (.checked block :: ((before ++ [here]) ++ behind)) := List.perm_middle
      simpa [first.blocks] using middle
    exact (drawn.cons injective handle).perm inserted
  | remove first =>
    rw [first.blocks] at later
    exact later.sublist ((List.sublist_cons_self _ _).append_left _)
  | moveUp first =>
    rw [first.blocks, List.append_assoc] at later
    exact later.perm ((List.Perm.swap _ _ _).append_left _)
  | moveDown first =>
    rw [first.blocks] at later
    exact later.perm ((List.Perm.swap _ _ _).append_left _)
  | update first =>
    rw [first.blocks] at later
    exact later.exchange rfl

/-- **One edit** of one block draws at most the next handle. -/
theorem AreDrawn.after {canvas : Canvas} {edit : Edit} (drawn : AreDrawn supply count canvas.blocks)
    (injective : Function.Injective2 supply) (single : edit.IsSingle)
    (fresh : ∀ registry typeId behind config handle, edit = .add registry typeId behind config handle →
      handle = supply count 0) : AreDrawn supply (count + 1) (canvas.after edit).blocks := by
  rcases after_cases drawn.isChecked single with same | changes
  · rw [same]
    exact drawn.mono (Nat.le_succ count)
  · exact drawn.changes injective changes fresh

/-- **One import** draws handles of the next moment. -/
theorem AreDrawn.load {canvas : Canvas} (drawn : AreDrawn supply count canvas.blocks)
    (injective : Function.Injective2 supply) (filled : ∀ moment place, supply moment place ≠ [])
    (generator : Generator) (source : Text) :
    AreDrawn supply (count + 1) (canvas.importLayout generator source (supply count)).1.blocks := by
  have imports := importsExactly canvas generator source (supply count) (filled count)
  by_cases replaced : (canvas.importLayout generator source (supply count)).2 = []
  · obtain ⟨blocks, _, same⟩ := imports.replaced replaced
    rw [same]
    exact areDrawn_underHandles injective blocks
  · rw [imports.unchanged replaced]
    exact drawn.mono (Nat.le_succ count)

theorem areDrawn_nil : AreDrawn supply count [] := ⟨nofun, List.nodup_nil⟩

namespace Timeline

/-- All canvases of a session have handles that were drawn before the next action. -/
def IsDrawn (supply : Nat → Nat → Text) (timeline : Timeline) : Prop :=
  ∀ canvas ∈ timeline.moments, AreDrawn supply timeline.past.length canvas.blocks

variable {timeline : Timeline}

/-- **One step** of a session draws handles of its own moment. -/
theorem areDrawn_next (injective : Function.Injective2 supply)
    (filled : ∀ moment place, supply moment place ≠ []) (drawn : timeline.IsDrawn supply) (action : Action) :
    AreDrawn supply (timeline.past.length + 1)
      (timeline.next (supply timeline.past.length) action).blocks := by
  have now := drawn timeline.present (List.mem_append_right _ (.head _))
  have later := now.mono (Nat.le_succ _)
  cases action with
  | add =>
    refine now.after injective trivial fun _ _ _ _ _ same => ?_
    cases same
    rfl
  | remove | move | update => exact now.after injective trivial nofun
  | load generator source => exact now.load injective filled generator source
  | restore moment =>
    unfold next
    dsimp only
    split
    · exact later
    · next earlier there =>
      have before := drawn earlier (List.mem_of_getElem? there)
      rw [replaceBlocks_of_areIdentified _ (before.isIdentified filled)]
      exact before.mono (Nat.le_succ _)
  | clear => exact areDrawn_nil
  | keep => exact later

/-- One more action. -/
theorem isDrawn_step (injective : Function.Injective2 supply)
    (filled : ∀ moment place, supply moment place ≠ []) (drawn : timeline.IsDrawn supply) (action : Action) :
    (timeline.step supply action).IsDrawn supply := by
  have longer : (timeline.step supply action).past.length = timeline.past.length + 1 := by
    simp [step, moments]
  intro canvas inside
  rw [longer]
  rcases List.mem_append.mp inside with before | now
  · exact (drawn canvas before).mono (Nat.le_succ _)
  · obtain rfl := List.mem_singleton.mp now
    exact areDrawn_next injective filled drawn action

/-- Every session. -/
theorem isDrawn_run (injective : Function.Injective2 supply)
    (filled : ∀ moment place, supply moment place ≠ []) (actions : List Action) :
    (run supply actions).IsDrawn supply := by
  have start : IsDrawn supply {} := by
    intro canvas inside
    obtain rfl := List.mem_singleton.mp inside
    exact areDrawn_nil
  have onward : ∀ timeline : Timeline, timeline.IsDrawn supply →
      (actions.foldl (step supply) timeline).IsDrawn supply := by
    induction actions with
    | nil => exact fun _ drawn => drawn
    | cons action actions ih => exact fun _ drawn => ih _ (isDrawn_step injective filled drawn action)
  exact onward {} start

end Timeline

end AreDrawn

/-! ### What handles are good for -/

/-- A handle stands for one block, before and behind every edit. -/
structure Canvas.HandlesIdentify (canvas : Canvas) : Prop where
  /-- Every block has a handle that is not empty, and no two have the same. -/
  identified : AreIdentified canvas.blocks
  /-- What is removed is not found any more, all other blocks are. -/
  removed : ∀ id edited, canvas.remove id = (edited, true) → edited.find? id = none ∧
    ∀ placement ∈ canvas.blocks, placement.instanceId ≠ id →
      edited.find? placement.instanceId = some placement
  /-- What is updated has the new entry. -/
  updated : ∀ id key value edited, canvas.update id key value = .ok (edited, true) →
    ∃ block name scalar, edited.find? id = some (.checked block) ∧ key = .text name ∧
      value = .scalar scalar ∧ block.config.get? name = some scalar
  /-- What is moved up is moved back down. -/
  movedBack : ∀ id edited, canvas.move id .up = (edited, true) → edited.move id .down = (canvas, true)

section HandlesIdentify

variable {canvas edited : Canvas} {id : Value}

/-- A removed handle is gone, and the blocks under other handles are found as before. -/
theorem AreIdentified.removed (identified : AreIdentified canvas.blocks)
    (done : canvas.remove id = (edited, true)) : edited.find? id = none ∧
      ∀ placement ∈ canvas.blocks, placement.instanceId ≠ id →
        edited.find? placement.instanceId = some placement := by
  rcases canvas.lacks_or_isFirst id with lacks | ⟨before, here, behind, first⟩
  · rw [remove_of_lacks lacks] at done
    cases done
  rw [remove_of_isFirst first] at done
  cases done
  have within : (before ++ behind).Sublist canvas.blocks := by
    rw [first.blocks]
    exact (List.sublist_cons_self here behind).append_left before
  have same := (identified.hasHandle_iff first.mem).mp first.named
  constructor
  · -- a second block under the handle would be the removed one
    refine List.find?_eq_none.mpr fun placement inside named => ?_
    have listed := within.subset inside
    obtain rfl := List.inj_on_of_nodup_map identified.distinct listed first.mem
      (((identified.hasHandle_iff listed).mp named).symm.trans same)
    have once := identified.distinct.of_map
    rw [first.blocks] at once
    exact (List.nodup_middle.mp once).notMem inside
  · intro placement inside other
    refine (identified.sublist within).find? ?_
    rw [first.blocks] at inside
    rcases List.mem_append.mp inside with front | back
    · exact List.mem_append_left _ front
    · rcases List.mem_cons.mp back with rfl | back
      · exact absurd same.symm other
      · exact List.mem_append_right _ back

/-- An updated block has the value under its key. -/
theorem updated_of_isChecked (checked : canvas.IsChecked) {key value : Value}
    (done : canvas.update id key value = .ok (edited, true)) :
    ∃ block name scalar, edited.find? id = some (.checked block) ∧ key = .text name ∧
      value = .scalar scalar ∧ block.config.get? name = some scalar := by
  have changes : Changes canvas (.update id key value) edited := changes_of_outcome checked trivial done
  cases changes with
  | @update _ before behind block config name scalar first written =>
    refine ⟨{ block with config }, name, scalar, ?_, rfl, rfl, written.value⟩
    exact IsFirst.find? ⟨rfl, first.named, first.others⟩

/-- A block that is moved up is the first one with its handle above, too. -/
theorem move_down_of_move_up (done : canvas.move id .up = (edited, true)) :
    edited.move id .down = (canvas, true) := by
  rcases canvas.lacks_or_isFirst id with lacks | ⟨front, here, behind, first⟩
  · rw [move_of_lacks lacks] at done
    cases done
  rcases front.eq_nil_or_concat' with rfl | ⟨before, upper, rfl⟩
  · rw [move_up_of_top first] at done
    cases done
  rw [move_up_of_isFirst first] at done
  cases done
  have above : IsFirst { canvas with blocks := before ++ here :: upper :: behind } id before here
      (upper :: behind) :=
    ⟨rfl, first.named, fun placement inside => first.others placement (List.mem_append_left _ inside)⟩
  have blocks : canvas.blocks = before ++ upper :: here :: behind := by simp [first.blocks]
  rw [move_down_of_isFirst above, ← blocks]

/-- **Handles identify blocks throughout a session.** -/
theorem handlesIdentify_run (supply : Nat → Nat → Text) (injective : Function.Injective2 supply)
    (filled : ∀ moment place, supply moment place ≠ []) (actions : List Action) :
    (Timeline.run supply actions).present.HandlesIdentify := by
  have drawn := Timeline.isDrawn_run injective filled actions _ (List.mem_append_right _ (.head _))
  have identified := drawn.isIdentified filled
  exact ⟨identified, fun _ _ => identified.removed, fun _ _ _ _ => updated_of_isChecked drawn.isChecked,
    fun _ _ => move_down_of_move_up⟩

end HandlesIdentify

/-- A handle for each action and each place. -/
def numberedHandle (moment place : Nat) : Text := Text.ofString "blk_" ++ [0x61 + moment, 0x61 + place]

/-- The second of two loaded blocks is removed and brought back, and a third one is added. -/
def restoringSession : List Action :=
  [.load ⟨.standard, {}⟩ "hero footer", .remove (.text "blk_ab"), .restore 1,
    .add .standard (.text "stats") (.text "blk_aa") .absent]

/-- A session that takes up an earlier canvas again. -/
theorem handlesIdentify_run_restored :
    Function.Injective2 numberedHandle ∧ (∀ moment place, numberedHandle moment place ≠ []) ∧
      (Timeline.run numberedHandle restoringSession).present.blocks.length = 3 ∧
      (Timeline.run numberedHandle restoringSession).present.HandlesIdentify := by
  have injective : Function.Injective2 numberedHandle := by
    intro moment moment' place place' same
    obtain ⟨first, second⟩ := List.cons.inj (List.append_cancel_left same)
    exact ⟨Nat.add_left_cancel first, Nat.add_left_cancel (List.cons.inj second).1⟩
  have filled : ∀ moment place, numberedHandle moment place ≠ [] := fun _ _ => List.cons_ne_nil _ _
  have three : (Timeline.run numberedHandle restoringSession).present.blocks.length = 3 := by decide +kernel
  exact ⟨injective, filled, three, handlesIdentify_run numberedHandle injective filled restoringSession⟩

end BlockPage
