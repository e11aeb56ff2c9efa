/-
**What templates read.**

A template reads its view of a configuration key by key. Reading fails only where a value cannot be shown,
and what a view looks like depends on little of what the values say.

* `Succeeds`, `Shows`, `Readable`: entries whose values can be shown; every reading of them succeeds.
* `IsShort`, `readable_effective`: a configuration without integers that are too long is readable over
  defaults without such.
* `Agree`: two computations have related results, or neither has one; `Agree.bind`, `Agree.mapM`.
* `Use`, `Use.Alike`: what is asked of a value before its texts are shown, and when two values give the same
  answer.
* `Unpacked`: the parts that templates take apart are there.
-/

import BlockPage.Library.Collections
import BlockPage.Proofs.Layout.RoundTrip

namespace BlockPage.Library

/-! ### Readings that succeed -/

section Succeeds

variable {α β ι : Type} {first : Except Problem α} {second : α → Except Problem β}

/-- The computation has a result. -/
def Succeeds (result : Except Problem α) : Prop := ∃ value, result = .ok value

theorem Succeeds.pure (value : α) : Succeeds (.ok value) := ⟨value, rfl⟩

/-- Two steps succeed if both do. -/
theorem Succeeds.bind (here : Succeeds first) (behind : ∀ value, Succeeds (second value)) :
    Succeeds (first >>= second) := by
  obtain ⟨value, rfl⟩ := here
  exact behind value

theorem Succeeds.map (here : Succeeds first) (f : α → β) : Succeeds (first.map f) := by
  obtain ⟨value, rfl⟩ := here
  exact ⟨f value, rfl⟩

end Succeeds

/-- The value can be shown. -/
def Shows (value : Value) : Prop := Succeeds value.shown?

/-- All values of some entries can be shown. -/
def Readable (entries : Entries) : Prop := ∀ key, Shows (Entries.value entries key)

section Shows

variable {value : Value}

/-- A value that can be shown has a text. -/
theorem Shows.text (shows : Shows value) (fallback : Text) : Succeeds (value.shown fallback) :=
  Succeeds.map shows _

/-- A value that can be shown can be split at a code point. -/
theorem Shows.parts (shows : Shows value) (separator : CodePoint) :
    Succeeds (splitList value [separator]) := by
  refine (shows.text []).bind fun text => ?_
  cases text with
  | nil => exact .pure _
  | cons first rest => exact .pure _

/-- A value that can be shown can be read as records. -/
theorem Shows.records (shows : Shows value) (fields : Int) : Succeeds (splitRecords value fields) :=
  (shows.parts CodePoint.semicolon).bind fun _ => .pure _

/-- A value that can be shown asks for some number of columns. -/
theorem Shows.columns (shows : Shows value) : Succeeds (gridColumns value) :=
  (shows.text "3").bind fun _ => .pure _

/-- The value is no integer of more digits than can be written. -/
def IsShort : Scalar → Prop
  | .integer value => (Number.decimal value.natAbs).length ≤ 4300
  | _ => True

instance : DecidablePred IsShort
  | .integer value => inferInstanceAs (Decidable ((Number.decimal value.natAbs).length ≤ 4300))
  | .float _ => inferInstanceAs (Decidable True)
  | .boolean _ => inferInstanceAs (Decidable True)
  | .text _ => inferInstanceAs (Decidable True)

/-- What can be written is short enough to be shown. -/
theorem isShort_of_writable {scalar : Scalar} (writable : ¬ scalar.Unwritable) : IsShort scalar := by
  cases scalar with
  | integer value => exact Nat.le_of_not_lt writable
  | _ => trivial

/-- A short scalar can be shown. -/
theorem shows_scalar {scalar : Scalar} (short : IsShort scalar) : Shows (.scalar scalar) := by
  cases scalar with
  | boolean value => cases value <;> exact .pure _
  | text text => exact .pure _
  | float number => exact .pure _
  | integer number =>
    have written : Number.Integer.exceedsLimit number = false :=
      Bool.not_eq_true _ ▸ fun long =>
        Nat.not_lt_of_le short ((Layout.exceedsLimit_iff number).mp long)
    have displayed : Value.displayed (.scalar (.integer number)) = .ok (Number.Integer.text number) := by
      have shown : Value.display (.scalar (.integer number)) = Number.Integer.text? number := by
        simp only [Value.display, Value.inspect, Value.inspectScalar]
      rw [Value.displayed, shown, Number.Integer.text?, written, if_neg (by decide)]
    have asText : Value.shown? (.scalar (.integer number)) =
        (Value.displayed (.scalar (.integer number))).map fun text =>
          if text.isEmpty then none else some text := rfl
    rw [Shows, asText, displayed]
    exact .pure _

end Shows

/-! ### Parts that are taken apart -/

/-- There is always a piece. -/
theorem splitLoop_ne_nil (separator text : Text) : ∀ (skipped : Nat) (piece : Text) (pieces : List Text),
    Text.splitLoop separator skipped piece pieces text ≠ [] := by
  induction text with
  | nil => simp [Text.splitLoop]
  | cons first rest ih =>
    intro skipped piece pieces
    cases skipped with
    | zero =>
      unfold Text.splitLoop
      split <;> exact ih _ _ _
    | succ skipped => exact ih skipped piece pieces

/-- The parts of a text between separators, without blanks around them. -/
def cells (separator : CodePoint) (text : Text) : List Text :=
  (Text.splitOn [separator] text).map Text.strip

/-- A record has all its fields, whatever is written of it. -/
theorem length_splitRecord (fields : Nat) (record : Text) :
    (splitRecord fields record).length = fields := by
  unfold splitRecord firstItems
  rw [if_neg (by omega)]
  simp only [Int.toNat_natCast, List.length_take, List.length_append, List.length_replicate]
  omega

/-- What templates take apart has the parts that they name. -/
structure Unpacked : Prop where
  records : ∀ (value : Value) (fields : Nat) (records : List (List Text)),
    splitRecords value fields = .ok records → ∀ record ∈ records, record.length = fields
  cells : ∀ (separator : CodePoint) (text : Text), cells separator text ≠ []
  initial : ∀ name, (Testimonials.initial name).length = 1
  icon : ∀ index, index % Features.icons.length < Features.icons.length

/-- **Records can be unpacked**: each has as many fields as are asked for. -/
theorem unpacked : Unpacked where
  records value fields records read record inside := by
    obtain ⟨parts, _, same⟩ := bind_eq_ok_iff.mp read
    cases same
    obtain ⟨part, _, rfl⟩ := List.mem_map.mp inside
    exact length_splitRecord fields part
  cells separator text := by
    rw [Ne, Library.cells, List.map_eq_nil_iff]
    exact splitLoop_ne_nil [separator] text 0 [] []
  initial name := by
    unfold Testimonials.initial orElse
    cases name with
    | nil => rfl
    | cons first rest => rfl
  icon index := Nat.mod_lt _ (by decide)

/-! ### Configurations over defaults -/

/-- After an insertion there are old entries, and some with the new value. -/
theorem mem_insert {entries : Entries} {key value : Value} {entry : Value × Value}
    (inside : entry ∈ entries.insert key value) : entry ∈ entries ∨ entry.2 = value := by
  unfold Entries.insert at inside
  split at inside
  · obtain ⟨other, listed, rfl⟩ := List.mem_map.mp inside
    split
    · exact .inr rfl
    · exact .inl listed
  · exact (List.mem_append.mp inside).imp_right fun last => by rw [List.mem_singleton.mp last]

/-- Every value of one map over another is a value of one of them. -/
theorem mem_overlay {P : Value → Prop} {above : Entries} :
    ∀ {below : Entries}, (∀ entry ∈ below, P entry.2) → (∀ entry ∈ above, P entry.2) →
      ∀ entry ∈ below.overlay above, P entry.2 := by
  induction above with
  | nil => exact fun under _ => under
  | cons first rest ih =>
    intro below under own
    refine ih (fun entry inside => ?_) fun entry inside => own entry (.tail _ inside)
    rcases mem_insert inside with old | new
    · exact under entry old
    · exact new ▸ own first (.head _)

/-- Entries are readable if all their values can be shown. -/
theorem readable_of_forall {entries : Entries} (each : ∀ entry ∈ entries, Shows entry.2) :
    Readable entries := by
  intro key
  rw [Entries.value, Entries.get?, Entries.lookup?]
  cases found : List.find? (fun entry => entry.1.equal (.text key)) entries with
  | none => exact .pure _
  | some entry => exact each entry (List.mem_of_find?_eq_some found)

/-- A configuration in literal entries has the values of these alone. -/
theorem writable_configOf {entries : List (String × Scalar)}
    (each : ∀ entry ∈ entries, ¬ entry.2.Unwritable) :
    ∀ entry ∈ (configOf entries).entries, ¬ entry.2.Unwritable := by
  intro entry inside
  obtain ⟨own, listed, rfl⟩ := List.mem_map.mp ((OrderedMap.binds_ofList _).mem_of_mem inside)
  exact each own listed

/-- Default texts can be written. -/
theorem writable_textsOf (entries : List (String × String)) :
    ∀ entry ∈ (textsOf entries).entries, ¬ entry.2.Unwritable := by
  refine writable_configOf fun entry inside => ?_
  obtain ⟨own, _, rfl⟩ := List.mem_map.mp inside
  exact not_false

/-- The values of a short configuration can be shown. -/
theorem shows_ofConfig {config : Config} (short : ∀ entry ∈ config.entries, IsShort entry.2) :
    ∀ entry ∈ Entries.ofConfig config, Shows entry.2 := by
  intro entry inside
  obtain ⟨own, listed, rfl⟩ := List.mem_map.mp inside
  exact shows_scalar (short own listed)

/-- A short configuration over writable defaults is readable. -/
theorem readable_effective {defaults config : Config}
    (under : ∀ entry ∈ defaults.entries, ¬ entry.2.Unwritable)
    (own : ∀ entry ∈ config.entries, IsShort entry.2) :
    Readable (effective defaults (.ofConfig config)) :=
  readable_of_forall (mem_overlay
    (shows_ofConfig fun entry inside => isShort_of_writable (under entry inside)) (shows_ofConfig own))

/-! ### Readings that agree -/

section Agree

variable {α β γ δ ι : Type} {related : α → β → Prop} {other : γ → δ → Prop}

/-- Both computations have results, which are related, or neither has one. -/
def Agree (related : α → β → Prop) : Except Problem α → Except Problem β → Prop
  | .ok first, .ok second => related first second
  | .error _, .error _ => True
  | _, _ => False

/-- Two steps agree if both do. -/
theorem Agree.bind {first : Except Problem α} {second : Except Problem β}
    {next : α → Except Problem γ} {next' : β → Except Problem δ} (here : Agree related first second)
    (behind : ∀ value value', related value value' → Agree other (next value) (next' value')) :
    Agree other (first >>= next) (second >>= next') := by
  cases first <;> cases second
  · trivial
  · cases here
  · cases here
  · exact behind _ _ here

/-- Functions of results that agree agree. -/
theorem Agree.map {first : Except Problem α} {second : Except Problem β} {f : α → γ} {g : β → δ}
    (here : Agree related first second)
    (behind : ∀ value value', related value value' → other (f value) (g value')) :
    Agree other (first.map f) (second.map g) := by
  cases first <;> cases second
  · trivial
  · cases here
  · cases here
  · exact behind _ _ here

/-- Traversals agree if every step does. -/
theorem Agree.mapM {items : List ι} {step : ι → Except Problem α} {step' : ι → Except Problem β}
    (each : ∀ item ∈ items, Agree related (step item) (step' item)) :
    Agree (List.Forall₂ related) (items.mapM step) (items.mapM step') := by
  induction items with
  | nil => exact .nil
  | cons first rest ih =>
    rw [List.mapM_cons, List.mapM_cons]
    refine (each first (.head _)).bind fun value value' here => ?_
    refine (ih fun item inside => each item (.tail _ inside)).bind fun values values' behind => ?_
    exact .cons here behind

end Agree

/-- As many texts, empty at the same places. -/
def SameGaps : List Text → List Text → Prop :=
  List.Forall₂ fun first second => first.isEmpty = second.isEmpty

/-- What a template asks of a value before it shows the texts that are in it. -/
inductive Use where
  /-- Nothing: the text is shown. -/
  | shown
  /-- Whether there is a text. -/
  | optional
  /-- Whether the value means on. -/
  | switch
  /-- Whether the text is one of some words. -/
  | choice (words : List String)
  /-- How many parts the text has, and which of them are empty. -/
  | parts (separator : CodePoint)
  /-- The same of each of its parts. -/
  | table (outer inner : CodePoint)

/-- Two values give the same answers, whatever their texts are. -/
def Use.Alike : Use → Value → Value → Prop
  | shown, left, right => Agree (fun _ _ => True) left.shown? right.shown?
  | optional, left, right =>
    Agree (fun first second => first.isEmpty = second.isEmpty) (left.shown []) (right.shown [])
  | switch, left, right => flag left = flag right
  | choice words, left, right =>
    Agree (fun first second => ∀ word ∈ words, first = Text.ofString word ↔ second = Text.ofString word)
      (left.shown []) (right.shown [])
  | parts separator, left, right =>
    Agree SameGaps (splitList left [separator]) (splitList right [separator])
  | table outer inner, left, right =>
    Agree (List.Forall₂ fun first second => SameGaps (cells inner first) (cells inner second))
      (splitList left [outer]) (splitList right [outer])

section Alike

variable {left right : Value}

/-- Values that are shown alike both have a text. -/
theorem Use.Alike.text (alike : Use.shown.Alike left right) (fallback : Text) :
    Agree (fun _ _ => True) (left.shown fallback) (right.shown fallback) :=
  Agree.map alike fun _ _ _ => trivial

/-- Values that are shown alike both ask for a number of columns. -/
theorem Use.Alike.columns (alike : Use.shown.Alike left right) :
    Agree (fun _ _ => True) (gridColumns left) (gridColumns right) :=
  (alike.text "3").bind fun _ _ _ => trivial

/-- Values with parts alike are read as equally many records. -/
theorem Use.Alike.records (alike : (Use.parts CodePoint.semicolon).Alike left right) (fields : Int) :
    Agree (fun first second => first.length = second.length) (splitRecords left fields)
      (splitRecords right fields) := by
  refine Agree.bind alike fun first second same => ?_
  show (first.map _).length = (second.map _).length
  rw [List.length_map, List.length_map, same.length_eq]

end Alike

/-- Texts with the same gaps have equally many that are not empty. -/
theorem SameGaps.length_filter {first second : List Text} (same : SameGaps first second) :
    (first.filter fun text => !text.isEmpty).length =
      (second.filter fun text => !text.isEmpty).length := by
  induction same with
  | nil => rfl
  | @cons text other rest others here _ ih =>
    cases empty : text.isEmpty with
    | true =>
      rw [List.filter_cons_of_neg (by simp [empty]), List.filter_cons_of_neg (by simp [← here, empty]), ih]
    | false =>
      rw [List.filter_cons_of_pos (by simp [empty]), List.filter_cons_of_pos (by simp [← here, empty]),
        List.length_cons, List.length_cons, ih]

/-- The gaps behind the first text are the same, too. -/
theorem SameGaps.tail {first second : List Text} (same : SameGaps first second) :
    SameGaps first.tail second.tail := by
  cases same with
  | nil => exact .nil
  | cons _ rest => exact rest

end BlockPage.Library
