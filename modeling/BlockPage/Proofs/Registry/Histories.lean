/-
**Registries and their histories.**

A registry is what has become of an empty one. What it says of a type can be read off the changes that led
to it: the type is there when the last change that names it registered it, and it has its place since the
moment at which it was registered while it was absent.

* `Change`, `Registry.changed`, `Registry.history`: the changes of a registry, and what they lead to.
* `IsCurrent`, `Arrives`: what is said of changes alone; `isCurrent_concat`, `arrives_concat`: one more
  change.
* `lookup?_history`, `exists_arrives_iff`, `ordered_history`: what a registry says of its history.
* `Registry.Records`, `Registry.Creates`, `history_consistent`: all views, behind any history.
-/

import BlockPage.Proofs.Registry.Categories
import BlockPage.Proofs.Registry.Creation

namespace BlockPage

open Intake OrderedMap

/-! ### Changes -/

/-- A change of a registry. -/
inductive Change where
  | register (definition : Definition)
  | unregister (typeId : Text)
  | restyle (style : Value)

/-- The change registers a type or removes it. -/
def Change.Names (typeId : Text) : Change → Prop
  | register definition => definition.typeId = typeId
  | unregister removed => removed = typeId
  | restyle _ => False

namespace Registry

/-- The registry behind a change. -/
def changed (registry : Registry) : Change → Registry
  | .register definition => registry.register definition
  | .unregister typeId => registry.unregister typeId
  | .restyle style => registry.withBaseStyle style

/-- What changes of an empty registry lead to. -/
def history (style : Value) (changes : List Change) : Registry := changes.foldl changed (empty style)

end Registry

/-- The last change that names the type registers the definition. -/
def IsCurrent (changes : List Change) (typeId : Text) (definition : Definition) : Prop :=
  ∃ before behind, changes = before ++ .register definition :: behind ∧ definition.typeId = typeId ∧
    ∀ change ∈ behind, ¬ change.Names typeId

/-- The type is registered at a moment at which it is absent, and not removed since. -/
def Arrives (changes : List Change) (typeId : Text) (moment : Nat) : Prop :=
  ∃ before definition behind, changes = before ++ .register definition :: behind ∧ before.length = moment ∧
    definition.typeId = typeId ∧ (∀ current, ¬ IsCurrent before typeId current) ∧
    .unregister typeId ∉ behind

/-! ### One more change -/

section Changes

variable {changes : List Change} {change : Change} {typeId : Text} {definition : Definition} {moment : Nat}

theorem not_isCurrent_nil : ¬ IsCurrent [] typeId definition := by
  rintro ⟨before, behind, split, -⟩
  cases before <;> cases split

theorem not_arrives_nil : ¬ Arrives [] typeId moment := by
  rintro ⟨before, definition, behind, split, -⟩
  cases before <;> cases split

/-- One more change either registers the definition itself, or leaves the type alone and the definition as it
was. -/
theorem isCurrent_concat : IsCurrent (changes ++ [change]) typeId definition ↔
    change = .register definition ∧ definition.typeId = typeId ∨
      ¬ change.Names typeId ∧ IsCurrent changes typeId definition := by
  constructor
  · rintro ⟨before, behind, split, named, others⟩
    rcases behind.eq_nil_or_concat' with rfl | ⟨behind, last, rfl⟩
    · obtain ⟨rfl, same⟩ := List.append_inj' split rfl
      exact .inl ⟨(List.cons.inj same).1, named⟩
    · rw [← List.cons_append, ← List.append_assoc] at split
      obtain ⟨rfl, same⟩ := List.append_inj' split rfl
      cases same
      exact .inr ⟨others change (List.mem_append_right _ (.head _)), before, behind, rfl, named,
        fun other inside => others other (List.mem_append_left _ inside)⟩
  · rintro (⟨rfl, named⟩ | ⟨other, before, behind, rfl, named, others⟩)
    · exact ⟨changes, [], rfl, named, List.forall_mem_nil _⟩
    · refine ⟨before, behind ++ [change], by simp, named, fun later inside => ?_⟩
      rcases List.mem_append.mp inside with inside | last
      · exact others later inside
      · rwa [List.mem_singleton.mp last]

/-- With one more change a type arrives there, having been absent, or has arrived before and is not
removed. -/
theorem arrives_concat : Arrives (changes ++ [change]) typeId moment ↔
    moment = changes.length ∧ (∃ definition, change = .register definition ∧ definition.typeId = typeId) ∧
        (∀ current, ¬ IsCurrent changes typeId current) ∨
      change ≠ .unregister typeId ∧ Arrives changes typeId moment := by
  constructor
  · rintro ⟨before, definition, behind, split, rfl, named, absent, kept⟩
    rcases behind.eq_nil_or_concat' with rfl | ⟨behind, last, rfl⟩
    · obtain ⟨rfl, same⟩ := List.append_inj' split rfl
      exact .inl ⟨rfl, ⟨definition, (List.cons.inj same).1, named⟩, absent⟩
    · rw [← List.cons_append, ← List.append_assoc] at split
      obtain ⟨rfl, same⟩ := List.append_inj' split rfl
      cases same
      rw [List.mem_append, List.mem_singleton, not_or] at kept
      exact .inr ⟨Ne.symm kept.2, before, definition, behind, rfl, rfl, named, absent, kept.1⟩
  · rintro (⟨rfl, ⟨definition, rfl, named⟩, absent⟩ | ⟨other, arrives⟩)
    · exact ⟨changes, definition, [], rfl, rfl, named, absent, List.not_mem_nil⟩
    · obtain ⟨before, definition, behind, rfl, rfl, named, absent, kept⟩ := arrives
      refine ⟨before, definition, behind ++ [change], by simp, rfl, named, absent, ?_⟩
      rw [List.mem_append, List.mem_singleton, not_or]
      exact ⟨kept, Ne.symm other⟩

theorem Arrives.lt_length (arrives : Arrives changes typeId moment) : moment < changes.length := by
  obtain ⟨before, definition, behind, rfl, rfl, -⟩ := arrives
  simp

/-- A change that names a type registers it or removes it. -/
theorem Change.names_iff : change.Names typeId ↔
    (∃ definition, change = .register definition ∧ definition.typeId = typeId) ∨
      change = .unregister typeId := by
  cases change with
  | register definition =>
    refine ⟨fun named => .inl ⟨definition, rfl, named⟩, ?_⟩
    rintro (⟨_, ⟨⟩, named⟩ | ⟨⟨⟩⟩)
    exact named
  | unregister removed =>
    refine ⟨fun named => .inr (congrArg _ named), ?_⟩
    rintro (⟨_, ⟨⟩, _⟩ | ⟨⟨⟩⟩)
    rfl
  | restyle style => exact iff_of_false id (by rintro (⟨_, ⟨⟩, _⟩ | ⟨⟨⟩⟩))

/-- A type that is there has arrived, and one that has arrived is there. -/
theorem exists_arrives_iff :
    (∃ moment, Arrives changes typeId moment) ↔ ∃ definition, IsCurrent changes typeId definition := by
  induction changes using List.reverseRecOn with
  | nil => exact iff_of_false (fun ⟨_, here⟩ => not_arrives_nil here) fun ⟨_, here⟩ => not_isCurrent_nil here
  | append_singleton changes change ih =>
    simp only [arrives_concat, isCurrent_concat]
    constructor
    · rintro ⟨moment, ⟨_, ⟨definition, rfl, named⟩, _⟩ | ⟨kept, arrives⟩⟩
      · exact ⟨definition, .inl ⟨rfl, named⟩⟩
      · by_cases named : change.Names typeId
        · obtain ⟨definition, rfl, same⟩ := (Change.names_iff.mp named).resolve_right kept
          exact ⟨definition, .inl ⟨rfl, same⟩⟩
        · obtain ⟨definition, current⟩ := ih.mp ⟨moment, arrives⟩
          exact ⟨definition, .inr ⟨named, current⟩⟩
    · rintro ⟨definition, ⟨rfl, named⟩ | ⟨other, current⟩⟩
      · by_cases present : ∃ current, IsCurrent changes typeId current
        · obtain ⟨moment, arrives⟩ := ih.mpr present
          exact ⟨moment, .inr ⟨nofun, arrives⟩⟩
        · exact ⟨changes.length, .inl ⟨rfl, ⟨definition, rfl, named⟩, not_exists.mp present⟩⟩
      · obtain ⟨moment, arrives⟩ := ih.mpr ⟨definition, current⟩
        refine ⟨moment, .inr ⟨?_, arrives⟩⟩
        rintro rfl
        exact other rfl

end Changes

/-! ### Histories -/

section History

variable (style : Value) {changes : List Change}

theorem history_concat (changes : List Change) (change : Change) :
    Registry.history style (changes ++ [change]) = (Registry.history style changes).changed change := by
  rw [Registry.history, List.foldl_concat]
  rfl

/-- A type is what it was last registered as. -/
theorem lookup?_history {typeId : Text} {definition : Definition} :
    (Registry.history style changes).lookup? typeId = some definition ↔ IsCurrent changes typeId definition := by
  induction changes using List.reverseRecOn with
  | nil => exact iff_of_false nofun not_isCurrent_nil
  | append_singleton changes change ih =>
    rw [history_concat, isCurrent_concat, ← ih]
    cases change with
    | register other =>
      show (Registry.register _ other).lookup? typeId = _ ↔ _
      rw [lookup?_register]
      by_cases same : other.typeId = typeId
      · rw [if_pos same]
        constructor
        · rintro ⟨⟩
          exact .inl ⟨rfl, same⟩
        · rintro (⟨⟨⟩, _⟩ | ⟨named, _⟩)
          · rfl
          · exact absurd same named
      · rw [if_neg same]
        constructor
        · exact fun found => .inr ⟨same, found⟩
        · rintro (⟨⟨⟩, named⟩ | ⟨_, found⟩)
          · exact absurd named same
          · exact found
    | unregister removed =>
      show (Registry.unregister _ removed).lookup? typeId = _ ↔ _
      rw [lookup?_unregister]
      by_cases same : removed = typeId
      · rw [if_pos same]
        refine iff_of_false nofun ?_
        rintro (⟨⟨⟩, _⟩ | ⟨named, _⟩)
        exact named same
      · rw [if_neg same]
        constructor
        · exact fun found => .inr ⟨same, found⟩
        · rintro (⟨⟨⟩, _⟩ | ⟨_, found⟩)
          exact found
    | restyle other =>
      constructor
      · exact fun found => .inr ⟨id, found⟩
      · rintro (⟨⟨⟩, _⟩ | ⟨_, found⟩)
        exact found

theorem mem_typeIds_history {typeId : Text} :
    typeId ∈ (Registry.history style changes).typeIds ↔ ∃ definition, IsCurrent changes typeId definition := by
  rw [mem_typeIds_iff, Option.ne_none_iff_exists']
  simp only [lookup?_history]

/-- Types stand in the order in which they arrived. -/
def InOrder (changes : List Change) (first second : Text) : Prop :=
  ∀ earlier later, Arrives changes first earlier → Arrives changes second later → earlier < later

/-- **Keys stand in the order in which their types arrived.** A replacement is no arrival, so that its type
keeps its place, and a removal moves nothing. -/
theorem ordered_history : (Registry.history style changes).typeIds.Pairwise (InOrder changes) := by
  induction changes using List.reverseRecOn with
  | nil => exact .nil
  | append_singleton changes change ih =>
    -- types that do not arrive now have arrived before
    have old {typeId : Text} (present : ∃ definition, IsCurrent changes typeId definition) {moment : Nat}
        (arrives : Arrives (changes ++ [change]) typeId moment) : Arrives changes typeId moment := by
      rcases arrives_concat.mp arrives with ⟨_, _, absent⟩ | ⟨_, before⟩
      · exact absurd present (not_exists.mpr absent)
      · exact before
    have kept : (Registry.history style changes).typeIds.Pairwise (InOrder (changes ++ [change])) := by
      refine ih.imp_of_mem fun firstListed secondListed ordered earlier later first second => ?_
      exact ordered earlier later (old ((mem_typeIds_history style).mp firstListed) first)
        (old ((mem_typeIds_history style).mp secondListed) second)
    rw [history_concat]
    cases change with
    | register definition =>
      show (Registry.register _ definition).typeIds.Pairwise _
      rw [typeIds_register]
      split_ifs with present
      · exact kept
      · rw [mem_typeIds_history] at present
        refine List.pairwise_append.mpr ⟨kept, List.pairwise_singleton _ _, fun first listed second last => ?_⟩
        obtain rfl := List.mem_singleton.mp last
        intro earlier later arrives arrivesNow
        have before := (old ((mem_typeIds_history style).mp listed) arrives).lt_length
        rcases arrives_concat.mp arrivesNow with ⟨rfl, _⟩ | ⟨_, arrived⟩
        · exact before
        · exact absurd (exists_arrives_iff.mp ⟨later, arrived⟩) present
    | unregister removed =>
      show (Registry.unregister _ removed).typeIds.Pairwise _
      rw [typeIds_unregister]
      exact kept.filter _
    | restyle other => exact kept

/-- Types that blocks may have are all that was ever registered. -/
theorem isNamed_history (named : ∀ definition, .register definition ∈ changes → IsTypeName definition.typeId) :
    (Registry.history style changes).IsNamed := by
  intro definition inside
  have listed : definition.typeId ∈ (Registry.history style changes).typeIds := List.mem_map_of_mem inside
  obtain ⟨current, before, behind, split, same, _⟩ := (mem_typeIds_history style).mp listed
  rw [← same]
  exact named current (split ▸ List.mem_append_right before (.head behind))

end History

/-! ### All views -/

/-- What a registry says of its types is what its history says. -/
structure Registry.Records (registry : Registry) (changes : List Change) : Prop where
  /-- A key has the type that was last registered under it, unless it has been removed since. -/
  current : ∀ typeId definition,
    registry.lookup? typeId = some definition ↔ IsCurrent changes typeId definition
  /-- A type is under its own key. -/
  own : ∀ typeId definition, registry.lookup? typeId = some definition → definition.typeId = typeId
  /-- All types that are found are listed, and no others. -/
  listed : ∀ definition, definition ∈ registry.list none ↔ registry.lookup? definition.typeId = some definition
  /-- No key is listed twice. -/
  once : ((registry.list none).map Definition.typeId).Nodup
  /-- Every type that is listed has arrived. -/
  arrived : ∀ definition ∈ registry.list none, ∃ moment, Arrives changes definition.typeId moment
  /-- Types are listed in the order in which they arrived. -/
  ordered : ((registry.list none).map Definition.typeId).Pairwise (InOrder changes)
  /-- A key is there when a type is listed under it. -/
  contains_iff : ∀ typeId,
    registry.contains typeId = true ↔ ∃ definition ∈ registry.list none, definition.typeId = typeId
  /-- The size is that of the list. -/
  size_eq : registry.size = (registry.list none).length
  /-- The keys are those of the list. -/
  typeIds_eq : registry.typeIds = (registry.list none).map Definition.typeId

/-- Blocks are made of all types that are there, and of no others. -/
structure Registry.Creates (registry : Registry) : Prop where
  /-- Just a type that is not there is refused as a missing key. -/
  refused_iff : ∀ typeId overrides fresh,
    (∃ problem : Problem, problem.kind = .missingKey ∧
      registry.createBlock (.text typeId) (.ofConfig overrides) fresh = .error problem) ↔
        registry.lookup? typeId = none
  /-- Of any other type a block is made, with the defaults of the type under what is given. -/
  made : ∀ typeId overrides fresh definition, registry.lookup? typeId = some definition →
    ∃ config, registry.createBlock (.text typeId) (.ofConfig overrides) fresh =
      .ok ⟨typeId, config, some fresh⟩ ∧ IsOverlay definition.defaults overrides config

/-- Every type of a registry is the one that is found under its own key. -/
theorem mem_definitions_iff {registry : Registry} {definition : Definition} :
    definition ∈ registry.definitions ↔ registry.lookup? definition.typeId = some definition := by
  constructor
  · intro inside
    have entry : definition.entry ∈ registry.types.entries := List.mem_map_of_mem inside
    rw [lookup?_eq]
    exact get?_of_mem entry
  · exact fun found => (lookup?_typeId found).2

/-- Every view of a registry tells what its history does. -/
theorem records_history (style : Value) (changes : List Change) :
    (Registry.history style changes).Records changes where
  current _ _ := lookup?_history style
  own _ _ found := (lookup?_typeId found).1
  listed _ := mem_definitions_iff
  once := (Registry.history style changes).distinct
  arrived definition inside := by
    rw [exists_arrives_iff, ← mem_typeIds_history style]
    exact List.mem_map_of_mem inside
  ordered := ordered_history style
  contains_iff typeId := by
    rw [Registry.contains, List.any_eq_true]
    simp only [decide_eq_true_iff]
    rfl
  size_eq := rfl
  typeIds_eq := rfl

/-- Where all keys are names that a block may have, a block is refused for an unknown key only. -/
theorem creates_of_isNamed {registry : Registry} (named : registry.IsNamed) : registry.Creates := by
  have made : ∀ typeId overrides fresh definition, registry.lookup? typeId = some definition →
      ∃ config, registry.createBlock (.text typeId) (.ofConfig overrides) fresh =
        .ok ⟨typeId, config, some fresh⟩ ∧ IsOverlay definition.defaults overrides config := by
    intro typeId overrides fresh definition registered
    obtain ⟨rfl, inside⟩ := lookup?_typeId registered
    have overlay := isOverlay_overlay definition.defaults overrides
    exact ⟨_, createBlock_eq_ok_iff.mpr ⟨⟨rfl, named definition inside⟩,
      ⟨definition, overrides, registered, gives_ofConfig overrides, overlay⟩, rfl⟩, overlay⟩
  refine ⟨fun typeId overrides fresh => ?_, made⟩
  constructor
  · rintro ⟨problem, _, refused⟩
    cases registered : registry.lookup? typeId with
    | none => rfl
    | some definition =>
      obtain ⟨config, passed, _⟩ := made typeId overrides fresh definition registered
      rw [passed] at refused
      cases refused
  · intro unknown
    rw [Entries.ofConfig_eq_ofFields, createBlock_of_unknown unknown]
    exact ⟨_, rfl, rfl⟩

/-- **All views of a registry agree, behind any history.** -/
theorem history_consistent (style : Value) (changes : List Change)
    (named : ∀ definition, .register definition ∈ changes → IsTypeName definition.typeId) :
    (Registry.history style changes).Records changes ∧ (Registry.history style changes).CountsCategories ∧
      (Registry.history style changes).Creates :=
  ⟨records_history style changes, countsCategories _, creates_of_isNamed (isNamed_history style named)⟩

/-- A type without markup. -/
def plainType (typeId category : Text) (defaults : Config) : Definition :=
  { typeId, name := typeId, category, defaults, html := Template.empty }

/-- The first of three types is replaced, and the second one removed and registered again. -/
def untidyChanges : List Change :=
  [.register (plainType "hero" "media" ∅), .register (plainType "quote" "text" ∅),
    .register (plainType "note" "text" ∅), .unregister "quote", .restyle (.text "body {}"),
    .register (plainType "hero" "text" (.ofList [("size", .integer 1)])),
    .register (plainType "quote" "media" ∅), .unregister "card"]

theorem history_consistent_untidy :
    (∀ definition, .register definition ∈ untidyChanges → IsTypeName definition.typeId) ∧
      (Registry.history .absent untidyChanges).typeIds = ["hero", "note", "quote"] ∧
      (Registry.history .absent untidyChanges).Records untidyChanges ∧
      (Registry.history .absent untidyChanges).CountsCategories ∧
      (Registry.history .absent untidyChanges).Creates := by
  have named : ∀ definition, .register definition ∈ untidyChanges → IsTypeName definition.typeId := by
    intro definition inside
    simp only [untidyChanges, List.mem_cons, Change.register.injEq, reduceCtorEq, List.not_mem_nil,
      or_false, false_or] at inside
    rcases inside with rfl | rfl | rfl | rfl | rfl <;> decide
  have order : (Registry.history .absent untidyChanges).typeIds = ["hero", "note", "quote"] := by decide +kernel
  exact ⟨named, order, history_consistent .absent untidyChanges named⟩

end BlockPage
