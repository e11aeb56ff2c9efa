/-
**What an operation does to the first block with a handle.**

A handle stands for the first block that has it. Each operation finds the block, if there is one, between
the blocks in front of it and those behind it, and its outcome can be read off that split.

* `Canvas.Lacks`, `Canvas.IsFirst`: no block has a handle, or one is the first; `lacks_or_isFirst`.
* `remove_of_isFirst`, `move_up_of_isFirst`, `move_down_of_isFirst`, `update_of_isFirst`: the outcomes, and
  those where there is no block or no neighbour.
* `updateBlock_eq_ok_iff`: the blocks that an update makes.
* `IsMade`, `IsNew`: the blocks that are added; `add_last_eq_ok_iff`, `add_behind_eq_ok_iff`: where they are
  put.
-/

import BlockPage.Canvas
import BlockPage.Proofs.Registry.Creation

namespace BlockPage.Canvas

open Intake OrderedMap

/-! ### The first block with a handle -/

/-- No block has the handle. -/
def Lacks (canvas : Canvas) (id : Value) : Prop :=
  ∀ placement ∈ canvas.blocks, hasHandle id placement = false

/-- The block is the first one with a handle, between the others. -/
structure IsFirst (canvas : Canvas) (id : Value) (before : List Placement) (here : Placement)
    (behind : List Placement) : Prop where
  blocks : canvas.blocks = before ++ here :: behind
  named : hasHandle id here = true
  others : ∀ placement ∈ before, hasHandle id placement = false

section Positions

variable {canvas : Canvas} {id : Value} {before behind : List Placement} {here : Placement}

/-- A canvas lacks a handle, or some block is the first one with it. -/
theorem lacks_or_isFirst (canvas : Canvas) (id : Value) :
    canvas.Lacks id ∨ ∃ before here behind, canvas.IsFirst id before here behind := by
  cases found : canvas.blocks.find? (hasHandle id) with
  | none =>
    refine .inl fun placement inside => ?_
    simpa using List.find?_eq_none.mp found placement inside
  | some here =>
    obtain ⟨named, before, behind, split, others⟩ := List.find?_eq_some_iff_append.mp found
    exact .inr ⟨before, here, behind, split, named, fun placement inside => by
      simpa using others placement inside⟩

/-- A handle that is lacking has no place. -/
theorem Lacks.index? (lacks : canvas.Lacks id) : canvas.index? id = none :=
  List.findIdx?_eq_none_iff.mpr lacks

/-- A handle that is lacking has no block. -/
theorem Lacks.find? (lacks : canvas.Lacks id) : canvas.find? id = none :=
  List.find?_eq_none.mpr fun placement inside => by simp [lacks placement inside]

/-- The first block with a handle gives it its place. -/
theorem IsFirst.index? (first : canvas.IsFirst id before here behind) :
    canvas.index? id = some before.length := by
  have none_before := List.findIdx?_eq_none_iff.mpr first.others
  rw [Canvas.index?, first.blocks, List.findIdx?_append, none_before, List.findIdx?_cons, first.named]
  simp

/-- The first block with a handle is the one that is found. -/
theorem IsFirst.find? (first : canvas.IsFirst id before here behind) : canvas.find? id = some here := by
  refine List.find?_eq_some_iff_append.mpr ⟨first.named, before, behind, first.blocks, fun placement inside => ?_⟩
  simp [first.others placement inside]

/-- Just one of the two is the case. -/
theorem Lacks.not_isFirst (lacks : canvas.Lacks id) : ¬ canvas.IsFirst id before here behind := by
  intro first
  have found := lacks.find?.symm.trans first.find?
  cases found

/-- A handle has one first block. -/
theorem IsFirst.unique (first : canvas.IsFirst id before here behind) {before' behind' : List Placement}
    {here' : Placement} (other : canvas.IsFirst id before' here' behind') :
    before = before' ∧ here = here' ∧ behind = behind' := by
  have place : before.length = before'.length := Option.some.inj (first.index?.symm.trans other.index?)
  obtain ⟨front, back⟩ := List.append_inj (first.blocks.symm.trans other.blocks) place
  obtain ⟨same, rest⟩ := List.cons.inj back
  exact ⟨front, same, rest⟩

/-! ### Removing -/

/-- Nothing is removed under a handle that is lacking. -/
theorem remove_of_lacks (lacks : canvas.Lacks id) : canvas.remove id = (canvas, false) := by
  rw [remove, lacks.index?]

/-- The first block with a handle is removed. -/
theorem remove_of_isFirst (first : canvas.IsFirst id before here behind) :
    canvas.remove id = ({ canvas with blocks := before ++ behind }, true) := by
  rw [remove, first.index?, first.blocks]
  dsimp only
  rw [List.eraseIdx_append_of_length_le (Nat.le_refl _), Nat.sub_self, List.eraseIdx_cons_zero]

/-! ### Moving -/

/-- Two neighbours change places. -/
theorem exchange_append {α : Type} (before behind : List α) (first second : α) :
    exchange before.length (before ++ first :: second :: behind) =
      some (before ++ second :: first :: behind) := by
  rw [exchange, List.drop_left, List.take_left]

/-- The last item has no neighbour behind it. -/
theorem exchange_last {α : Type} (before : List α) (last : α) :
    exchange before.length (before ++ [last]) = none := by
  rw [exchange, List.drop_left]

/-- Nothing is moved under a handle that is lacking. -/
theorem move_of_lacks (lacks : canvas.Lacks id) (direction : Direction) :
    canvas.move id direction = (canvas, false) := by
  rw [move, lacks.index?]
  rfl

/-- A block is moved up over the one before it. -/
theorem move_up_of_isFirst {upper : Placement} (first : canvas.IsFirst id (before ++ [upper]) here behind) :
    canvas.move id .up = ({ canvas with blocks := before ++ here :: upper :: behind }, true) := by
  have blocks : canvas.blocks = before ++ upper :: here :: behind := by
    rw [first.blocks, List.append_assoc]
    rfl
  have place : canvas.index? id = some (before.length + 1) := by
    rw [first.index?, List.length_append]
    rfl
  have moved := exchange_append before behind upper here
  rw [← blocks] at moved
  simp [move, place, moved]

/-- The first block of all stays where it is. -/
theorem move_up_of_top (first : canvas.IsFirst id [] here behind) :
    canvas.move id .up = (canvas, false) := by
  rw [move, first.index?]
  rfl

/-- A block is moved down behind the next one. -/
theorem move_down_of_isFirst {lower : Placement} (first : canvas.IsFirst id before here (lower :: behind)) :
    canvas.move id .down = ({ canvas with blocks := before ++ lower :: here :: behind }, true) := by
  have moved := exchange_append before behind here lower
  rw [← first.blocks] at moved
  simp [move, first.index?, moved]

/-- The last block of all stays where it is. -/
theorem move_down_of_end (first : canvas.IsFirst id before here []) :
    canvas.move id .down = (canvas, false) := by
  have moved := exchange_last before here
  rw [← first.blocks] at moved
  simp [move, first.index?, moved]

/-! ### Updating -/

/-- Nothing is updated under a handle that is lacking. -/
theorem update_of_lacks (lacks : canvas.Lacks id) (key value : Value) :
    canvas.update id key value = .ok (canvas, false) := by
  rw [update, lacks.index?]
  rfl

/-- The first block with a handle is updated in its place. -/
theorem update_of_isFirst (first : canvas.IsFirst id before here behind) (key value : Value) :
    canvas.update id key value = (updateBlock here key value).map fun updated =>
      ({ canvas with blocks := before ++ .checked updated :: behind }, true) := by
  have set (updated : Block) : canvas.blocks.set before.length (.checked updated) =
      before ++ .checked updated :: behind := by
    rw [first.blocks, List.set_append_right _ _ (Nat.le_refl _), Nat.sub_self, List.set_cons_zero]
  rw [update, first.index?, first.find?]
  simp only [set]
  cases updateBlock here key value <;> rfl

end Positions

/-- An entry whose key is not a text is none of a configuration. -/
theorem readConfig_insert_iff {config updated : Config} {key value : Value} :
    readConfig .strict (.map (Entries.insert (Entries.ofConfig config) key value)) = .fits updated ↔
      ∃ name scalar, key = .text name ∧ value = .scalar scalar ∧ updated = config.insert name scalar := by
  by_cases isText : ∃ name, key = .text name
  · obtain ⟨name, rfl⟩ := isText
    rw [Entries.ofConfig_eq_ofFields, Entries.insert_ofFields, readConfig_ofFields_iff]
    constructor
    · intro same
      have written : (updated.get? name).map Value.scalar = some value := by
        rw [← get?_mapValues, ← same, get?_insert, if_pos rfl]
      obtain ⟨scalar, -, rfl⟩ := Option.map_eq_some_iff.mp written
      exact ⟨name, scalar, rfl, rfl, ((mapValues_inj scalar_injective).mp (by rw [← same, mapValues_insert]))⟩
    · rintro ⟨_, scalar, ⟨⟩, rfl, rfl⟩
      rw [mapValues_insert]
  · have other (entry : Value × Value) (inside : entry ∈ Entries.ofConfig config) :
        ¬ entry.1.equal key = true := by
      obtain ⟨pair, _, rfl⟩ := List.mem_map.mp inside
      exact fun same => isText ⟨pair.1, text_equal_iff.mp same⟩
    have absent : ((Entries.ofConfig config).any fun entry => entry.1.equal key) = false := by
      simpa using other
    refine iff_of_false ?_ fun ⟨name, _, same, _⟩ => isText ⟨name, same⟩
    rw [Entries.insert, absent, readConfig_eq_fits_iff]
    rintro ⟨pairs, same, -⟩
    have last : (key, value) ∈ scalarEntries pairs := same ▸ List.mem_append_right _ (.head _)
    obtain ⟨pair, _, named⟩ := List.mem_map.mp last
    exact isText ⟨pair.1, (congrArg Prod.fst named).symm⟩

/-- A text can be a key. -/
theorem requireKey_text (name : Text) : (Value.text name).requireKey = .ok () := rfl

/-- An update of a checked block writes one entry and is made for texts with scalars alone. -/
theorem updateBlock_eq_ok_iff {block updated : Block} {key value : Value} :
    updateBlock (.checked block) key value = .ok updated ↔
      IsTypeName block.typeId ∧ ∃ name scalar, key = .text name ∧ value = .scalar scalar ∧
        updated = { block with config := block.config.insert name scalar } := by
  show (key.requireKey >>= fun _ => (readBlock (blockEntries (.text block.typeId)
    (.map (Entries.insert (Entries.ofConfig block.config) key value))
    (.ofOption block.instanceId))).toExcept) = _ ↔ _
  rw [bind_eq_ok_iff]
  simp only [Checked.toExcept_eq_ok_iff, readBlock_eq_fits_iff, readConfig_insert_iff]
  constructor
  · rintro ⟨_, _, ⟨same, named⟩, ⟨name, scalar, rfl, rfl, config⟩, handle⟩
    obtain ⟨typeId, _, id⟩ := updated
    cases same
    cases config
    cases handle
    exact ⟨named, name, scalar, rfl, rfl, rfl⟩
  · rintro ⟨named, name, scalar, rfl, rfl, rfl⟩
    exact ⟨(), requireKey_text name, ⟨rfl, named⟩, ⟨name, scalar, rfl, rfl, rfl⟩, rfl⟩

/-! ### Adding -/

/-- The configuration that is given with a new block, an empty one when there is none. -/
def GivenAs (config : Value) (given : Config) : Prop :=
  ∃ entries, (if config.isTruthy then config else .map []).toEntries = .ok entries ∧ entries.Gives given

/-- A block is made of what is given. -/
def IsMade (registry : Registry) (typeId config : Value) (fresh : Text) (block : Block) : Prop :=
  ∃ entries, (if config.isTruthy then config else .map []).toEntries = .ok entries ∧
    registry.createBlock typeId entries fresh = .ok block

/-- The block is one of a registered type: its defaults under what is given, under a fresh handle. -/
structure IsNew (registry : Registry) (typeId config : Value) (fresh : Text) (block : Block) : Prop where
  type : typeId = .text block.typeId
  config : ∃ definition given, registry.lookup? block.typeId = some definition ∧ GivenAs config given ∧
    IsOverlay definition.defaults given block.config
  handle : block.instanceId = some fresh

section Adding

variable {canvas added : Canvas} {registry : Registry} {typeId config : Value} {fresh : Text} {block : Block}

/-- What is made by the registry is new as described. -/
theorem IsMade.isNew (made : IsMade registry typeId config fresh block) :
    IsNew registry typeId config fresh block := by
  obtain ⟨entries, passed, created⟩ := made
  obtain ⟨⟨type, _⟩, ⟨definition, given, registered, gives, overlay⟩, handle⟩ :=
    createBlock_eq_ok_iff.mp created
  exact ⟨type, ⟨definition, given, registered, ⟨entries, passed, gives⟩, overlay⟩, handle⟩

/-- Blocks of types that may be types of blocks are made. -/
theorem IsNew.isMade (named : registry.IsNamed) (new : IsNew registry typeId config fresh block) :
    IsMade registry typeId config fresh block := by
  obtain ⟨type, ⟨definition, given, registered, ⟨entries, passed, gives⟩, overlay⟩, handle⟩ := new
  obtain ⟨same, inside⟩ := lookup?_typeId registered
  exact ⟨entries, passed, createBlock_eq_ok_iff.mpr
    ⟨⟨type, same ▸ named definition inside⟩, ⟨definition, given, registered, gives, overlay⟩, handle⟩⟩

/-- Without a place, a new block is added at the end. -/
theorem add_last_eq_ok_iff :
    canvas.add registry typeId .absent config fresh = .ok added ↔
      ∃ block, IsMade registry typeId config fresh block ∧
        added = { canvas with blocks := canvas.blocks ++ [.checked block] } := by
  unfold add
  simp only [bind_eq_ok_iff]
  constructor
  · rintro ⟨entries, passed, block, created, ⟨⟩⟩
    exact ⟨block, ⟨entries, passed, created⟩, rfl⟩
  · rintro ⟨block, ⟨entries, passed, created⟩, rfl⟩
    exact ⟨entries, passed, block, created, rfl⟩

variable {id : Value} {before behind : List Placement} {here : Placement}

/-- Behind the first block with a handle there is one place. -/
theorem insertAt_of_isFirst (first : canvas.IsFirst id before here behind) (block : Block) :
    canvas.insertAt (before.length + 1) block =
      { canvas with blocks := before ++ here :: .checked block :: behind } := by
  have front : before ++ here :: behind = (before ++ [here]) ++ behind := by simp
  have length : before.length + 1 = (before ++ [here]).length := by simp
  rw [insertAt, first.blocks, front, length, List.take_left, List.drop_left, List.append_assoc]
  rfl

/-- Any value but the absent one is a handle. -/
theorem add_eq_of_place (place : id ≠ .absent) :
    canvas.add registry typeId id config fresh = (do
      let overrides ← (if config.isTruthy then config else .map []).toEntries
      let block ← registry.createBlock typeId overrides fresh
      match canvas.index? id with
      | none => .error (unknownBlock id)
      | some index => return canvas.insertAt (index + 1) block) := by
  cases id
  case absent => exact absurd rfl place
  all_goals rfl

/-- Behind a handle that is lacking, nothing is added. -/
theorem add_of_lacks (place : id ≠ .absent) (lacks : canvas.Lacks id) :
    canvas.add registry typeId id config fresh ≠ .ok added := by
  rw [add_eq_of_place place, lacks.index?]
  intro passed
  obtain ⟨_, _, passed⟩ := bind_eq_ok_iff.mp passed
  obtain ⟨_, _, passed⟩ := bind_eq_ok_iff.mp passed
  cases passed

/-- With a place, a new block is added right behind the first block that has the handle. -/
theorem add_behind_eq_ok_iff (place : id ≠ .absent) (first : canvas.IsFirst id before here behind) :
    canvas.add registry typeId id config fresh = .ok added ↔
      ∃ block, IsMade registry typeId config fresh block ∧
        added = { canvas with blocks := before ++ here :: .checked block :: behind } := by
  rw [add_eq_of_place place, first.index?]
  simp only [bind_eq_ok_iff, insertAt_of_isFirst first]
  constructor
  · rintro ⟨entries, passed, block, created, ⟨⟩⟩
    exact ⟨block, ⟨entries, passed, created⟩, rfl⟩
  · rintro ⟨block, ⟨entries, passed, created⟩, rfl⟩
    exact ⟨entries, passed, block, created, rfl⟩

end Adding

end BlockPage.Canvas
