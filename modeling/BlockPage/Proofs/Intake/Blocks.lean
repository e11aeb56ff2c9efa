/-
**What makes a block.**

A block is made of a type, a configuration and a handle, each looked at for itself. So it can be said
exactly from which values a given block is made.

* `Checked.seq_eq_fits_iff`, `Checked.each_eq_fits_iff`: what fits as a whole fits part by part.
* `IsTypeName`: the texts that are taken for a type.
* `readConfig_eq_fits_iff`: the entries that are taken for a configuration.
* `readBlock_eq_fits_iff`: the values from which a block is made.
-/

import BlockPage.Intake.Block
import BlockPage.Proofs.Value.Entries

namespace BlockPage.Intake

/-! ### Wholes and parts -/

namespace Checked

variable {α β : Type}

/-- A function of a part fits if the part does. -/
theorem map_eq_fits_iff {f : α → β} {checked : Checked α} {value : β} :
    f <$> checked = .fits value ↔ ∃ part, checked = .fits part ∧ f part = value := by
  cases checked with
  | wrong issues => exact iff_of_false nofun fun ⟨_, made, _⟩ => nomatch made
  | fits part => simp [Functor.map, Checked.map]

/-- A function and its argument fit if both do. -/
theorem seq_eq_fits_iff {function : Checked (α → β)} {argument : Checked α} {value : β} :
    function <*> argument = .fits value ↔
      ∃ f part, function = .fits f ∧ argument = .fits part ∧ f part = value := by
  cases function with
  | wrong issues => exact iff_of_false nofun fun ⟨_, _, made, _⟩ => nomatch made
  | fits f =>
    cases argument with
    | wrong issues => exact iff_of_false nofun fun ⟨_, _, _, made, _⟩ => nomatch made
    | fits part =>
      constructor
      · rintro ⟨⟩
        exact ⟨f, part, rfl, rfl, rfl⟩
      · rintro ⟨_, _, ⟨⟩, ⟨⟩, rfl⟩
        rfl

/-- A part fits wherever it stands. -/
theorem under_eq_fits_iff {step : PathStep} {checked : Checked α} {value : α} :
    checked.under step = .fits value ↔ checked = .fits value := by
  cases checked with
  | wrong issues => exact iff_of_false nofun nofun
  | fits part => exact Iff.rfl

/-- What fits is not refused. -/
theorem toExcept_eq_ok_iff {checked : Checked α} {value : α} :
    checked.toExcept = .ok value ↔ checked = .fits value := by
  cases checked with
  | wrong issues => exact iff_of_false nofun nofun
  | fits part => simp [toExcept]

/-- Items fit if each of them does. -/
theorem each_eq_fits_iff {checks : List (Checked α)} {values : List α} :
    each checks = .fits values ↔ checks = values.map .fits := by
  induction checks generalizing values with
  | nil =>
    cases values with
    | nil => exact iff_of_true rfl rfl
    | cons => exact iff_of_false nofun nofun
  | cons first rest ih =>
    show (List.cons <$> first) <*> each rest = .fits values ↔ _
    rw [seq_eq_fits_iff]
    constructor
    · rintro ⟨_, others, front, behind, rfl⟩
      obtain ⟨value, rfl, rfl⟩ := map_eq_fits_iff.mp front
      rw [ih.mp behind]
      rfl
    · intro same
      obtain ⟨value, others, rfl, rfl, rfl⟩ := List.map_eq_cons_iff.mp same.symm
      exact ⟨_, others, rfl, ih.mpr rfl, rfl⟩

end Checked

/-! ### Types -/

/-- The texts that are taken for a type: they are not empty and hold no surrogates. -/
def IsTypeName (name : Text) : Prop := name ≠ [] ∧ ∀ point ∈ name, Text.isSurrogate point = false

instance : DecidablePred IsTypeName := fun name =>
  inferInstanceAs (Decidable (name ≠ [] ∧ ∀ point ∈ name, Text.isSurrogate point = false))

/-- A strict text is a text. -/
theorem readText_eq_fits_iff {value : Value} {text : Text} :
    readText .strict value = .fits text ↔ value = .text text := by
  cases value with
  | scalar scalar => cases scalar <;> simp [readText, Value.text, Checked.issue]
  | _ => simp [readText, Value.text, Checked.issue]

/-- The name of a type is a text that is not empty and has no surrogates. -/
theorem readNonEmpty_eq_fits_iff {value : Value} {name : Text} :
    readNonEmpty .strict value = .fits name ↔ value = .text name ∧ IsTypeName name := by
  unfold readNonEmpty readTested
  cases read : readText .strict value with
  | wrong issues =>
    refine iff_of_false nofun fun ⟨same, _⟩ => ?_
    rw [readText_eq_fits_iff.mpr same] at read
    cases read
  | fits text =>
    rw [readText_eq_fits_iff.mp read]
    show (if text.any Text.isSurrogate then Checked.issue .stringUnicode
      else if (!text.isEmpty) = true then .fits text else .issue .stringTooShort) = _ ↔ _
    constructor
    · intro passed
      split at passed
      · cases passed
      · next plain =>
        split at passed
        · next filled =>
          cases passed
          refine ⟨rfl, by simpa using filled, ?_⟩
          simpa using plain
        · cases passed
    · rintro ⟨same, filled, plain⟩
      obtain rfl : text = name := Scalar.text.inj (Value.scalar.inj same)
      have noSurrogate : text.any Text.isSurrogate = false := by simpa using plain
      rw [noSurrogate, if_neg (by decide), if_pos (by simpa using filled)]

/-! ### Configurations -/

/-- A strict scalar is a scalar of any kind. -/
theorem readScalar_eq_fits_iff {value : Value} {scalar : Scalar} :
    readScalar .strict value = .fits scalar ↔ value = .scalar scalar := by
  cases value <;> simp [readScalar]

/-- An entry is a text with a scalar. -/
theorem readEntry_eq_fits_iff {entry : Value × Value} {read : Text × Scalar} :
    readEntry .strict entry = .fits read ↔ entry = (.text read.1, .scalar read.2) := by
  show ((Prod.mk <$> (readText .strict entry.1).under (.name "[key]")) <*>
    readScalar .strict entry.2).under _ = _ ↔ _
  rw [Checked.under_eq_fits_iff, Checked.seq_eq_fits_iff]
  constructor
  · rintro ⟨_, value, front, here, rfl⟩
    obtain ⟨key, named, rfl⟩ := Checked.map_eq_fits_iff.mp front
    rw [Checked.under_eq_fits_iff, readText_eq_fits_iff] at named
    rw [readScalar_eq_fits_iff] at here
    exact Prod.ext named here
  · rintro rfl
    exact ⟨Prod.mk read.1, read.2, rfl, rfl, rfl⟩

/-- Named scalars as entries. -/
def scalarEntries (pairs : List (Text × Scalar)) : Entries :=
  pairs.map fun pair => (.text pair.1, .scalar pair.2)

/-- Entries are texts with scalars. -/
theorem map_readEntry_iff {entries : Entries} {pairs : List (Text × Scalar)} :
    entries.map (readEntry .strict) = pairs.map .fits ↔ entries = scalarEntries pairs := by
  induction entries generalizing pairs with
  | nil => cases pairs <;> simp [scalarEntries]
  | cons entry entries ih =>
    cases pairs with
    | nil => exact iff_of_false nofun nofun
    | cons pair pairs =>
      rw [List.map_cons, List.map_cons, List.cons.injEq, ih, readEntry_eq_fits_iff, scalarEntries,
        scalarEntries, List.map_cons, List.cons.injEq]

/-- The entries of a configuration are texts with scalars, of which later ones win. -/
theorem readConfig_eq_fits_iff {entries : Entries} {config : Config} :
    readConfig .strict (.map entries) = .fits config ↔
      ∃ pairs, entries = scalarEntries pairs ∧ .ofList pairs = config := by
  show OrderedMap.ofList <$> Checked.each (entries.map (readEntry .strict)) = _ ↔ _
  rw [Checked.map_eq_fits_iff]
  simp only [Checked.each_eq_fits_iff, map_readEntry_iff]

/-- What an ordered map of values is as a configuration. -/
theorem readConfig_ofFields_iff {map : OrderedMap Text Value} {config : Config} :
    readConfig .strict (.map (Entries.ofFields map.entries)) = .fits config ↔ map = config.mapValues .scalar := by
  rw [readConfig_eq_fits_iff]
  constructor
  · rintro ⟨pairs, same, rfl⟩
    have entries : map.entries = pairs.map fun pair => (pair.1, Value.scalar pair.2) := by
      have names : Function.Injective fun field : Text × Value => (Value.text field.1, field.2) := by
        rintro ⟨first, value⟩ ⟨second, other⟩ equal
        cases equal
        rfl
      refine names.list_map (same.trans ?_)
      rw [scalarEntries, List.map_map]
      rfl
    have distinct : (pairs.map Prod.fst).Nodup := by
      have keys := map.distinct
      rwa [entries, List.map_map] at keys
    have kept : OrderedMap.ofList pairs = ⟨pairs, distinct⟩ := OrderedMap.ofList_entries ⟨pairs, distinct⟩
    rw [kept]
    exact OrderedMap.ext_entries entries
  · rintro rfl
    exact ⟨config.entries, (Entries.ofConfig_eq_ofFields config).symm, OrderedMap.ofList_entries config⟩

/-! ### Blocks -/

/-- A handle is read as it is. -/
theorem readHandle_eq_fits_iff {id other : Option Text} :
    readOption (readText .strict) (.ofOption id) = .fits other ↔ id = other := by
  have read : readOption (readText .strict) (.ofOption id) = .fits id := by cases id <;> rfl
  rw [read, Checked.fits.injEq]

/-- A block is made from the values of its parts, and from no others. -/
theorem readBlock_eq_fits_iff {typeId config : Value} {id : Option Text} {block : Block} :
    readBlock (blockEntries typeId config (.ofOption id)) = .fits block ↔
      (typeId = .text block.typeId ∧ IsTypeName block.typeId) ∧
        readConfig .strict config = .fits block.config ∧ id = block.instanceId := by
  have type : required (blockEntries typeId config (.ofOption id)) "type_id" (readNonEmpty .strict) =
      (readNonEmpty .strict typeId).under (.name "type_id") := by
    rw [required, blockEntries, Entries.get?_ofFields]
    rfl
  have entries : optional (blockEntries typeId config (.ofOption id)) "config" ∅ (readConfig .strict) =
      (readConfig .strict config).under (.name "config") := by
    rw [optional, blockEntries, Entries.get?_ofFields]
    rfl
  have handle : optional (blockEntries typeId config (.ofOption id)) "instance_id" none
      (readOption (readText .strict)) =
        (readOption (readText .strict) (.ofOption id)).under (.name "instance_id") := by
    rw [optional, blockEntries, Entries.get?_ofFields]
    rfl
  rw [readBlock, type, entries, handle, Checked.seq_eq_fits_iff]
  constructor
  · rintro ⟨_, instanceId, front, last, rfl⟩
    obtain ⟨_, made, first, middle, rfl⟩ := Checked.seq_eq_fits_iff.mp front
    obtain ⟨name, named, rfl⟩ := Checked.map_eq_fits_iff.mp first
    rw [Checked.under_eq_fits_iff] at named middle last
    exact ⟨readNonEmpty_eq_fits_iff.mp named, middle, readHandle_eq_fits_iff.mp last⟩
  · rintro ⟨named, made, rfl⟩
    refine ⟨Block.mk block.typeId block.config, block.instanceId, ?_, ?_, rfl⟩
    · refine Checked.seq_eq_fits_iff.mpr ⟨Block.mk block.typeId, block.config, ?_, ?_, rfl⟩
      · exact Checked.map_eq_fits_iff.mpr ⟨block.typeId,
          Checked.under_eq_fits_iff.mpr (readNonEmpty_eq_fits_iff.mpr named), rfl⟩
      · exact Checked.under_eq_fits_iff.mpr made
    · exact Checked.under_eq_fits_iff.mpr (readHandle_eq_fits_iff.mpr rfl)

end BlockPage.Intake
