/-
**Maps that are looked up by texts.**

A key that is a text is equal to itself alone. So entries under texts behave like those of an ordered map,
whatever the other keys are.

* `text?_eq_some_iff`: the values that are texts.
* `equal_text_iff`, `text_equal_iff`: the values that are equal to a text, which comes last or first.
* `get?_insert`, `get?_erase`, `get?_ofFields`: what is found behind each operation.
* `get?_overlay`: what is found where a configuration is written over other entries.
* `insert_ofFields`, `overlay_ofFields`: entries under texts alone are those of an ordered map.
-/

import BlockPage.Proofs.OrderedMap
import BlockPage.Value.Equality
import Mathlib.Tactic.SplitIfs

namespace BlockPage

theorem text?_eq_some_iff {value : Value} {text : Text} : value.text? = some text ↔ value = .text text := by
  unfold Value.text?
  split
  · simp [Value.text]
  · next other => exact iff_of_false nofun (other text)

/-- Only a text equals a text. -/
theorem equal_text_iff {value : Value} {text : Text} :
    value.equal (.text text) = true ↔ value = .text text := by
  cases value with
  | scalar scalar => cases scalar <;> simp [Value.text, Value.equal, Scalar.equal]
  | _ => simp [Value.text, Value.equal]

theorem equal_text (first second : Text) :
    (Value.text first).equal (.text second) = decide (first = second) := by
  rw [Value.text, Value.text, Value.equal, Scalar.equal, beq_eq_decide]

theorem text_equal_iff {text : Text} {value : Value} :
    (Value.text text).equal value = true ↔ value = .text text := by
  cases value with
  | scalar scalar =>
    cases scalar with
    | text other =>
      show (Value.text text).equal (.text other) = true ↔ Value.text other = .text text
      rw [equal_text, decide_eq_true_iff, eq_comm]
      simp [Value.text]
    | _ => simp [Value.text, Value.equal, Scalar.equal]
  | _ => simp [Value.text, Value.equal]

namespace Entries

/-- What is equal to one text is not equal to another. -/
theorem equal_other {key : Value} {name other : Text} (found : key.equal (.text name) = true)
    (different : name ≠ other) : key.equal (.text other) = false := by
  rw [equal_text_iff.mp found, equal_text]
  exact decide_eq_false different

theorem get?_insert (entries : Entries) (key name : Text) (value : Value) :
    (entries.insert (.text key) value).get? name = if key = name then some value else entries.get? name := by
  rw [get?, lookup?, insert]
  by_cases present : (List.any entries fun entry => entry.1.equal (.text key)) = true
  · -- the entries of the key are changed in their places, and no key changes
    have keys : ((fun entry => entry.1.equal (.text name)) ∘
        fun entry : Value × Value => if entry.1.equal (.text key) then (entry.1, value) else entry) =
          fun entry => entry.1.equal (.text name) := by
      funext entry
      show (ite _ _ _ : Value × Value).1.equal _ = _
      split_ifs <;> rfl
    rw [if_pos present, List.find?_map, keys, Option.map_map, get?, lookup?]
    cases found : List.find? (fun entry => entry.1.equal (.text name)) entries with
    | none =>
      have different : key ≠ name := by
        rintro rfl
        obtain ⟨entry, inside, same⟩ := List.any_eq_true.mp present
        exact List.find?_eq_none.mp found entry inside same
      rw [if_neg different]
      rfl
    | some entry =>
      have here := List.find?_some found
      by_cases same : key = name
      · subst same
        simp [here]
      · simp [same, equal_other here (Ne.symm same)]
  · rw [if_neg present, List.find?_append, get?, lookup?]
    rw [List.any_eq_true, not_exists] at present
    by_cases same : key = name
    · subst same
      have absent : List.find? (fun entry => entry.1.equal (.text key)) entries = none :=
        List.find?_eq_none.mpr fun entry inside found => present entry ⟨inside, found⟩
      simp [absent, equal_text]
    · simp [same, equal_text]

theorem get?_erase (entries : Entries) {key name : Text} (different : name ≠ key) :
    (entries.erase key).get? name = entries.get? name := by
  have kept : (fun entry : Value × Value => decide
      ((!entry.1.equal (.text key)) = true ∧ entry.1.equal (.text name) = true)) =
        fun entry => entry.1.equal (.text name) := by
    funext entry
    cases found : entry.1.equal (.text name) with
    | false => simp
    | true => simp [equal_other found different]
  rw [get?, get?, lookup?, lookup?, erase, List.find?_filter, kept]

/-- Entries of a list find the first field with the key. -/
theorem get?_ofFields (fields : List (Text × Value)) (name : Text) :
    (ofFields fields).get? name = (fields.find? (·.1 = name)).map Prod.snd := by
  rw [get?, lookup?, ofFields, List.find?_map, Option.map_map]
  simp only [Function.comp_def, equal_text]

/-- What a configuration says comes first. -/
theorem get?_overlay (below : Entries) (config : Config) (name : Text) :
    (below.overlay (ofConfig config)).get? name =
      ((config.get? name).map .scalar).or (below.get? name) := by
  have written : ∀ entries : List (Text × Scalar),
      (below.overlay (entries.map fun entry => (.text entry.1, .scalar entry.2))).get? name =
        ((OrderedMap.lastValue? entries name).map .scalar).or (below.get? name) := by
    intro entries
    induction entries using List.reverseRecOn with
    | nil => rfl
    | append_singleton entries entry ih =>
      rw [List.map_append, overlay, List.foldl_append]
      show get? (insert (overlay below _) (.text entry.1) (.scalar entry.2)) name = _
      rw [get?_insert, ih, OrderedMap.lastValue?_concat]
      by_cases same : entry.1 = name <;> simp [same]
  rw [ofConfig, written, OrderedMap.lastValue?_entries]

/-! ### Entries under texts alone -/

/-- The entries of a configuration are its own, with values as they are handed around. -/
theorem ofConfig_eq_ofFields (config : Config) :
    ofConfig config = ofFields (config.mapValues Value.scalar).entries := by
  rw [ofConfig, ofFields, OrderedMap.mapValues, List.map_map]
  rfl

/-- Insertion keeps to ordered maps: a key that is there keeps its place. -/
theorem insert_ofFields (map : OrderedMap Text Value) (key : Text) (value : Value) :
    insert (ofFields map.entries) (.text key) value = ofFields (map.insert key value).entries := by
  have present : ((ofFields map.entries).any fun entry => entry.1.equal (.text key)) = map.contains key := by
    rw [ofFields, List.any_map, OrderedMap.contains]
    exact congrArg (map.entries.any ·) (funext fun entry => equal_text entry.1 key)
  unfold insert OrderedMap.insert
  rw [present]
  split
  · show _ = ofFields (OrderedMap.replaceEntry key value map.entries)
    rw [ofFields, ofFields, OrderedMap.replaceEntry, List.map_map, List.map_map]
    refine List.map_congr_left fun entry _ => ?_
    by_cases same : entry.1 = key <;> simp [equal_text, same]
  · rw [ofFields, ofFields, List.map_append]
    rfl

/-- Laying entries over a map inserts them one after the other. -/
theorem overlay_ofFields (map : OrderedMap Text Value) (pairs : List (Text × Value)) :
    overlay (ofFields map.entries) (ofFields pairs) = ofFields (map.insertAll pairs).entries := by
  induction pairs generalizing map with
  | nil => rfl
  | cons pair pairs ih =>
    show overlay (insert (ofFields map.entries) (.text pair.1) pair.2) (ofFields pairs) = _
    rw [insert_ofFields, ih]
    rfl

end Entries

end BlockPage
