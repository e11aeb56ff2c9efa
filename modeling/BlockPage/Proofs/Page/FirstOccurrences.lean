/-
**Styles and scripts are contributed once for each type.**

The first block of a type contributes its style and its script and uses the type up, whatever its
templates give. Of the earlier blocks a block only needs to know which types they have, so later blocks
add nothing to what the first ones have given, and blocks behind a page change nothing in front of them.

* `firstOccurrences`: the blocks whose type occurs at no earlier place, with their places.
* `Registry.style?`, `Registry.script?`: what such a block gives, if it is text and not blank.
* `contributions_eq`, `speaksFrom_iff`: the loop over the blocks, place by place.
* `flatMap_contributions`: what only the first block of a type adds.
* `contributionsFrom_append`: what blocks add does not depend on those behind them.
* `resolve_once`: all of it for resolved pages.
-/

import BlockPage.Proofs.Page.Resolution
import Mathlib.Data.List.Nodup

namespace BlockPage

/-! ### First blocks of their types -/

/-- The types of the blocks before a place. -/
def earlierTypes (blocks : List Block) (place : Nat) : List Text :=
  (blocks.take place).map Block.typeId

/-- The blocks whose type occurs at no earlier place, with their places. -/
def firstOccurrences (blocks : List Block) : List (Block × Nat) :=
  blocks.zipIdx.filter fun entry => entry.1.typeId ∉ earlierTypes blocks entry.2

/-- The blocks without those whose type has occurred before. -/
def withoutRepeats (blocks : List Block) : List Block := (firstOccurrences blocks).map Prod.fst

/-- The places of the blocks that are left without repeats. -/
def firstPlaces (blocks : List Block) : List Nat := (firstOccurrences blocks).map Prod.snd

/-- The text that an outcome gives, without blanks around it, if anything is left. -/
def Outcome.given? (outcome : Outcome) : Option Text :=
  (outcome.text?.map Text.strip).filter (· ≠ [])

/-- The style that a block gives to its type, below a banner. -/
def Registry.style? (registry : Registry) (block : Block) : Option Text :=
  (registry.lookup? block.typeId).bind fun definition =>
    (block.outcome definition .css).given?.map fun style =>
      Text.concat ["/* --- ", definition.name, " --- */\n", style]

/-- The script that a block gives to its type. -/
def Registry.script? (registry : Registry) (block : Block) : Option Text :=
  (registry.lookup? block.typeId).bind fun definition => (block.outcome definition .js).given?

/-- The stage is that of a part which is contributed once for each type. -/
def Stage.IsShared (stage : Stage) : Prop := stage = .part .css ∨ stage = .part .js

instance : DecidablePred Stage.IsShared := fun stage =>
  inferInstanceAs (Decidable (stage = .part .css ∨ stage = .part .js))

/-- What is said of styles and scripts. -/
def RenderTree.shared (tree : RenderTree) : List Diagnostic :=
  tree.diagnostics.filter fun diagnostic => diagnostic.stage.IsShared

/-- The diagnostic when only the blocks at some places are left. -/
def Diagnostic.among (places : List Nat) (diagnostic : Diagnostic) : Diagnostic :=
  { diagnostic with index := (places.idxOf diagnostic.index.toNat : Nat) }

/-- Every template that is rendered for the blocks speaks: that of the markup for each block, those of
style and script for the first block of a type. -/
def Registry.SpeaksFor (registry : Registry) (blocks : List Block) : Prop :=
  ∀ entry ∈ blocks.zipIdx, ∀ definition, registry.lookup? entry.1.typeId = some definition →
    ∀ part, part = .html ∨ entry ∈ firstOccurrences blocks →
      (entry.1.outcome definition part).Speaks

theorem mem_firstOccurrences {blocks : List Block} {entry : Block × Nat} :
    entry ∈ firstOccurrences blocks ↔
      entry ∈ blocks.zipIdx ∧ entry.1.typeId ∉ earlierTypes blocks entry.2 := by
  rw [firstOccurrences, List.mem_filter, decide_eq_true_iff]

/-- The type of a block is among the earlier types of every later place. -/
theorem mem_earlierTypes {blocks : List Block} {first second : Nat} {block : Block}
    (found : blocks[first]? = some block) (before : first < second) :
    block.typeId ∈ earlierTypes blocks second := by
  refine List.mem_map_of_mem (List.mem_of_getElem? (i := first) ?_)
  rw [List.getElem?_take_of_lt before, found]

/-- No two of the first blocks have the same type. -/
theorem nodup_withoutRepeats (blocks : List Block) :
    ((withoutRepeats blocks).map Block.typeId).Nodup := by
  rw [withoutRepeats, List.map_map, List.Nodup, List.pairwise_map, firstOccurrences,
    List.pairwise_filter, List.pairwise_iff_getElem]
  intro first second _ inside before _ isFirst same
  simp only [List.getElem_zipIdx, Nat.zero_add, Function.comp_apply] at isFirst same
  rw [List.length_zipIdx] at inside
  have earlier := mem_earlierTypes (List.getElem?_eq_getElem (Nat.lt_trans before inside)) before
  rw [same] at earlier
  exact of_decide_eq_true isFirst earlier

theorem nodup_firstPlaces (blocks : List Block) : (firstPlaces blocks).Nodup := by
  have all : (blocks.zipIdx.map Prod.snd).Nodup := by
    rw [List.zipIdx_map_snd]
    exact List.nodup_range'
  exact all.sublist (List.filter_sublist.map _)

/-- Blocks of different types are all first ones. -/
theorem firstOccurrences_of_nodup {blocks : List Block} (distinct : (blocks.map Block.typeId).Nodup) :
    firstOccurrences blocks = blocks.zipIdx := by
  rw [firstOccurrences, List.filter_eq_self]
  rintro ⟨block, place⟩ inside
  have found : blocks[place]? = some block := List.mem_zipIdx_iff_getElem?.mp inside
  refine decide_eq_true fun earlier => ?_
  obtain ⟨other, taken, same⟩ := List.mem_map.mp earlier
  obtain ⟨index, before⟩ := List.mem_iff_getElem?.mp taken
  rw [List.getElem?_take, Option.ite_none_right_eq_some] at before
  have short : place < (blocks.map Block.typeId).length :=
    (List.length_map _).symm ▸ (List.getElem?_eq_some_iff.mp found).1
  refine List.nodup_iff_getElem?_ne_getElem?.mp distinct index place before.1 short ?_
  rw [List.getElem?_map, List.getElem?_map, before.2, found]
  exact congrArg some same

/-- The blocks that are left, each with its new place. -/
theorem zipIdx_withoutRepeats (blocks : List Block) :
    (withoutRepeats blocks).zipIdx = (firstOccurrences blocks).map fun entry =>
      (entry.1, (firstPlaces blocks).idxOf entry.2) := by
  refine List.ext_getElem (by simp [withoutRepeats]) fun index _ _ => ?_
  have place := (nodup_firstPlaces blocks).idxOf_getElem index (by simp_all [firstPlaces])
  simpa [withoutRepeats, firstPlaces] using place.symm

/-! ### The loop, place by place -/

section Loop

variable {registry : Registry} {seen passed : List Text}

/-- Of the registered types just those have contributed that blocks have had. -/
def Registry.Marks (registry : Registry) (seen passed : List Text) : Prop :=
  ∀ typeId, registry.contains typeId = true → seen.contains typeId = passed.contains typeId

/-- A type that is registered is seen when a block of it has passed. -/
theorem Registry.Marks.lookup (marks : registry.Marks seen passed) {typeId : Text}
    {definition : Definition} (found : registry.lookup? typeId = some definition) :
    seen.contains typeId = passed.contains typeId :=
  marks typeId (by rw [contains_iff_lookup?, found]; rfl)

/-- **The types that have contributed.** A block of a registered type uses it up, whatever its templates
give; one of another type uses nothing up. -/
theorem Registry.Marks.after (marks : registry.Marks seen passed) (index : Nat) (block : Block) :
    registry.Marks (seenAfter seen (contribution registry index seen block))
      (passed ++ [block.typeId]) := by
  intro typeId registered
  have before := marks typeId registered
  unfold contribution
  cases found : registry.lookup? block.typeId with
  | none =>
    have other : typeId ≠ block.typeId := by
      rintro rfl
      rw [contains_iff_lookup?, found] at registered
      cases registered
    simpa [seenAfter, other] using before
  | some definition =>
    show (if seen.contains block.typeId then seen else block.typeId :: seen).contains typeId = _
    by_cases same : typeId = block.typeId
    · subst same
      split <;> simp_all
    · split <;> simpa [same] using before

/-- A contribution asks of the types that have been seen only which registered ones are among them. -/
theorem contribution_congr (marks : registry.Marks seen passed) (index : Nat) (block : Block) :
    contribution registry index seen block = contribution registry index passed block := by
  unfold contribution
  cases found : registry.lookup? block.typeId with
  | none => rfl
  | some definition => rw [marks.lookup found]

theorem speaks_congr (marks : registry.Marks seen passed) (block : Block) :
    registry.Speaks seen block ↔ registry.Speaks passed block := by
  refine forall₂_congr fun definition found => ?_
  rw [marks.lookup found]

/-- The earlier types of the place behind the done blocks are the types of the done blocks. -/
theorem earlierTypes_append (done rest : List Block) :
    earlierTypes (done ++ rest) done.length = done.map Block.typeId := by
  rw [earlierTypes, List.take_left]

/-- What is seen keeps step with what has passed: the step of the invariant of the loop. -/
theorem Registry.Marks.concat {done : List Block} {block : Block}
    (marks : registry.Marks seen (done.map Block.typeId)) :
    registry.Marks (seenAfter seen (contribution registry done.length seen block))
      ((done ++ [block]).map Block.typeId) := by
  rw [List.map_append]
  exact marks.after done.length block

/-- The loop told without its state: each block contributes by the types in front of it. -/
theorem contributionsFrom_eq (rest : List Block) :
    ∀ (done : List Block) (seen : List Text), registry.Marks seen (done.map Block.typeId) →
      contributionsFrom registry done.length seen rest =
        (rest.zipIdx done.length).map fun entry =>
          contribution registry entry.2 (earlierTypes (done ++ rest) entry.2) entry.1 := by
  induction rest with
  | nil => exact fun _ _ _ => rfl
  | cons block rest ih =>
    intro done seen marks
    have behind := ih (done ++ [block]) _ marks.concat
    rw [List.length_append, List.append_assoc] at behind
    rw [contributionsFrom, List.zipIdx_cons, List.map_cons, earlierTypes_append,
      ← contribution_congr marks]
    exact congrArg _ behind

/-- The condition on failures, in the same way, block by block. -/
theorem speaksFrom_iff (rest : List Block) :
    ∀ (done : List Block) (seen : List Text), registry.Marks seen (done.map Block.typeId) →
      (registry.SpeaksFrom done.length seen rest ↔ ∀ entry ∈ rest.zipIdx done.length,
        registry.Speaks (earlierTypes (done ++ rest) entry.2) entry.1) := by
  induction rest with
  | nil => exact fun _ _ _ => iff_of_true trivial fun _ inside => nomatch inside
  | cons block rest ih =>
    intro done seen marks
    have behind := ih (done ++ [block]) _ marks.concat
    rw [List.length_append, List.append_assoc] at behind
    rw [Registry.SpeaksFrom, List.zipIdx_cons, List.forall_mem_cons, earlierTypes_append,
      ← speaks_congr marks]
    exact and_congr_right fun _ => behind

variable (registry) (blocks : List Block)

theorem contributions_eq : contributionsFrom registry 0 [] blocks = blocks.zipIdx.map fun entry =>
    contribution registry entry.2 (earlierTypes blocks entry.2) entry.1 :=
  contributionsFrom_eq blocks [] [] fun _ _ => rfl

theorem mem_renderedParts {first : Bool} {part : Part} :
    part ∈ renderedParts first ↔ part = .html ∨ first = true := by
  cases first <;> cases part <;> decide

theorem speaksFrom_start : registry.SpeaksFrom 0 [] blocks ↔ registry.SpeaksFor blocks := by
  refine (speaksFrom_iff blocks [] [] fun _ _ => rfl).trans ?_
  refine forall₂_congr fun entry inside => forall₂_congr fun definition _ => ?_
  have first : (!(earlierTypes blocks entry.2).contains entry.1.typeId) = true ↔
      entry ∈ firstOccurrences blocks := by
    rw [mem_firstOccurrences, Bool.not_eq_true', ← Bool.not_eq_true, List.contains_iff_mem]
    exact (and_iff_right inside).symm
  simp only [mem_renderedParts, List.nil_append, first]

/-- **What only the first block of a type adds.** -/
theorem flatMap_contributions {α : Type} (read : Contribution → List α)
    (give : Nat → Block → List α)
    (once : ∀ index seen block, read (contribution registry index seen block) =
      if block.typeId ∈ seen then [] else give index block) :
    (contributionsFrom registry 0 [] blocks).flatMap read =
      (firstOccurrences blocks).flatMap fun entry => give entry.2 entry.1 := by
  rw [contributions_eq, List.flatMap_map, firstOccurrences]
  generalize blocks.zipIdx = entries
  induction entries with
  | nil => rfl
  | cons entry entries ih =>
    rw [List.flatMap_cons, ih, once, List.filter_cons]
    by_cases repeated : entry.1.typeId ∈ earlierTypes blocks entry.2 <;> simp [repeated]

end Loop

/-! ### Styles, scripts and what is said of them -/

section Shared

variable (registry : Registry) (blocks : List Block)

theorem fragments_eq (outcome : Outcome) : outcome.fragments = outcome.given?.toList := by
  unfold Outcome.fragments Outcome.given?
  cases outcome.text?.map Text.strip with
  | none => rfl
  | some text => by_cases blank : text = [] <;> simp [Option.filter, blank]

theorem bannered_eq (definition : Definition) (style : Text) : bannered definition style =
    Text.concat ["/* --- ", definition.name, " --- */\n", style] := by
  simp [bannered, styleBanner, Text.concat, Text.ofString]

/-- A block brings the style of its type unless the type was seen. -/
theorem css_contribution (index : Nat) (seen : List Text) (block : Block) :
    (contribution registry index seen block).css =
      if block.typeId ∈ seen then [] else (registry.style? block).toList := by
  unfold contribution Registry.style?
  cases registry.lookup? block.typeId with
  | none => exact (ite_self _).symm
  | some definition =>
    by_cases repeated : block.typeId ∈ seen
    · simp [knownContribution, repeated]
    · simp [knownContribution, repeated, fragments_eq, bannered_eq, Option.toList_map]

theorem js_contribution (index : Nat) (seen : List Text) (block : Block) :
    (contribution registry index seen block).js =
      if block.typeId ∈ seen then [] else (registry.script? block).toList := by
  unfold contribution Registry.script?
  cases registry.lookup? block.typeId with
  | none => exact (ite_self _).symm
  | some definition =>
    by_cases repeated : block.typeId ∈ seen <;> simp [knownContribution, repeated, fragments_eq]

/-- What is said of the style and the script that the first block of a type gives. -/
def Registry.sharedDiagnostics (registry : Registry) (index : Nat) (block : Block) : List Diagnostic :=
  match registry.lookup? block.typeId with
  | none => []
  | some definition => [Part.css, Part.js].flatMap fun part =>
    partDiagnostics index block part (block.outcome definition part)

/-- Diagnostics of the markup are not shared, those of the other parts are. -/
theorem filter_partDiagnostics (index : Nat) (block : Block) (part : Part) (outcome : Outcome) :
    (partDiagnostics index block part outcome).filter (·.stage.IsShared) =
      if part = .html then [] else partDiagnostics index block part outcome := by
  unfold partDiagnostics
  cases outcome.text? with
  | some text => simp
  | none => cases part <;> rfl

theorem shared_contribution (index : Nat) (seen : List Text) (block : Block) :
    (contribution registry index seen block).diagnostics.filter (·.stage.IsShared) =
      if block.typeId ∈ seen then [] else registry.sharedDiagnostics index block := by
  unfold contribution Registry.sharedDiagnostics
  cases registry.lookup? block.typeId with
  | none => exact (ite_self _).symm
  | some definition =>
    by_cases repeated : block.typeId ∈ seen <;>
      simp [knownContribution, renderedParts, Part.all, repeated, filter_partDiagnostics]

/-- All styles: those of first occurrences, in the order of the blocks. -/
theorem css_contributions : (contributionsFrom registry 0 [] blocks).flatMap Contribution.css =
    (firstOccurrences blocks).filterMap fun entry => registry.style? entry.1 := by
  rw [flatMap_contributions registry blocks _ _ (css_contribution registry),
    List.filterMap_eq_flatMap_toList]

theorem js_contributions : (contributionsFrom registry 0 [] blocks).flatMap Contribution.js =
    (firstOccurrences blocks).filterMap fun entry => registry.script? entry.1 := by
  rw [flatMap_contributions registry blocks _ _ (js_contribution registry),
    List.filterMap_eq_flatMap_toList]

/-- All diagnostics of shared parts: those of first occurrences, in the order of the blocks. -/
theorem shared_contributions :
    ((contributionsFrom registry 0 [] blocks).flatMap Contribution.diagnostics).filter
        (·.stage.IsShared) =
      (firstOccurrences blocks).flatMap fun entry =>
        registry.sharedDiagnostics entry.2 entry.1 := by
  rw [List.filter_flatMap]
  exact flatMap_contributions registry blocks _ _ (shared_contribution registry)

end Shared

/-! ### Pages without repeats, and pages with more blocks behind -/

section Changed

variable (registry : Registry) {blocks : List Block}

/-- Without repeats the same blocks are first occurrences, each at the place that it has among them. -/
theorem firstOccurrences_withoutRepeats (blocks : List Block) :
    firstOccurrences (withoutRepeats blocks) = (firstOccurrences blocks).map fun entry =>
      (entry.1, (firstPlaces blocks).idxOf entry.2) := by
  rw [firstOccurrences_of_nodup (nodup_withoutRepeats blocks), zipIdx_withoutRepeats]

theorem map_among_partDiagnostics (places : List Nat) (index : Nat) (block : Block) (part : Part)
    (outcome : Outcome) :
    (partDiagnostics index block part outcome).map (Diagnostic.among places) =
      partDiagnostics (places.idxOf index) block part outcome := by
  unfold partDiagnostics
  split <;> rfl

theorem map_among_sharedDiagnostics (places : List Nat) (index : Nat) (block : Block) :
    (registry.sharedDiagnostics index block).map (Diagnostic.among places) =
      registry.sharedDiagnostics (places.idxOf index) block := by
  unfold Registry.sharedDiagnostics
  cases registry.lookup? block.typeId with
  | none => rfl
  | some definition =>
    dsimp only
    rw [List.map_flatMap]
    simp only [map_among_partDiagnostics]

/-- The condition on failures survives the removal of repeats. -/
theorem Registry.SpeaksFor.withoutRepeats {registry : Registry} (speaks : registry.SpeaksFor blocks) :
    registry.SpeaksFor (withoutRepeats blocks) := by
  intro entry inside definition found part _
  rw [zipIdx_withoutRepeats] at inside
  obtain ⟨old, first, rfl⟩ := List.mem_map.mp inside
  exact speaks old (mem_firstOccurrences.mp first).1 definition found part (.inr first)

/-- What the first blocks contribute does not depend on those behind them. -/
theorem contributionsFrom_append (start rest : List Block) :
    ∀ (index : Nat) (seen : List Text), contributionsFrom registry index seen start <+:
      contributionsFrom registry index seen (start ++ rest) := by
  induction start with
  | nil => exact fun _ _ => List.nil_prefix
  | cons block start ih => exact fun _ _ => (List.cons_prefix_cons).mpr ⟨rfl, ih _ _⟩

/-- The condition on failures holds of the first blocks when it holds of all. -/
theorem Registry.SpeaksFrom.front {registry : Registry} {start rest : List Block} :
    ∀ {index : Nat} {seen : List Text}, registry.SpeaksFrom index seen (start ++ rest) →
      registry.SpeaksFrom index seen start := by
  induction start with
  | nil => exact fun _ => trivial
  | cons block start ih => exact fun speaks => ⟨speaks.1, ih speaks.2⟩

/-- What is read off contributions grows with them. -/
theorem flatMap_prefix {α : Type} {read : Contribution → List α} {start all : List Contribution}
    (front : start <+: all) : start.flatMap read <+: all.flatMap read := by
  obtain ⟨rest, rfl⟩ := front
  rw [List.flatMap_append]
  exact List.prefix_append _ _

end Changed

/-! ### Resolution -/

/-- A page to which each type of some blocks has contributed once, by its first block. -/
structure RenderTree.ContributedOnce (tree : RenderTree) (registry : Registry)
    (navigation footer : Value) (base : Text) (blocks : List Block) : Prop where
  css : tree.css =
    base :: (firstOccurrences blocks).filterMap fun entry => registry.style? entry.1
  js : tree.js = (firstOccurrences blocks).filterMap fun entry => registry.script? entry.1
  /-- The blocks whose type has occurred before change nothing of this, nor what is said of it. -/
  repeats : ∃ other,
    resolve registry navigation footer ((withoutRepeats blocks).map .checked) = .ok other ∧
      other.css = tree.css ∧ other.js = tree.js ∧
      other.shared = tree.shared.map (Diagnostic.among (firstPlaces blocks))
  /-- The blocks behind others change nothing that those have given. -/
  front : ∀ start rest, blocks = start ++ rest → ∃ part,
    resolve registry navigation footer (start.map .checked) = .ok part ∧
      part.css <+: tree.css ∧ part.js <+: tree.js ∧ part.html <+: tree.html ∧
      part.diagnostics <+: tree.diagnostics

/-- **Styles and scripts once for each type.** Over a registry with a text as its shared style, checked
blocks are resolved just when what is rendered of them can be reported. The page then has the shared
style and, for each first block of a type, its style below the banner; likewise its scripts. -/
theorem resolve_once (registry : Registry) (navigation footer : Value) (base : Text)
    (style : registry.baseStyle = .text base) (blocks : List Block) :
    ((∃ tree, resolve registry navigation footer (blocks.map .checked) = .ok tree) ↔
      registry.SpeaksFor blocks) ∧
    ∀ tree, resolve registry navigation footer (blocks.map .checked) = .ok tree →
      tree.ContributedOnce registry navigation footer base blocks := by
  have resolved {layout : List Block} {tree : RenderTree} :=
    @resolve_eq_ok_iff registry base style navigation footer layout tree
  have spoken := speaksFrom_start registry
  refine ⟨⟨?_, fun speaks => ⟨_, resolved.mpr ⟨(spoken blocks).mpr speaks, rfl⟩⟩⟩, ?_⟩
  · rintro ⟨tree, passed⟩
    exact (spoken blocks).mp (resolved.mp passed).1
  intro tree passed
  obtain ⟨speaks, rfl⟩ := resolved.mp passed
  have css (layout : List Block) := congrArg (base :: ·) (css_contributions registry layout)
  have js := js_contributions registry
  have shared := shared_contributions registry
  refine ⟨css blocks, js blocks, ?_, ?_⟩
  · have once := (spoken _).mpr ((spoken blocks).mp speaks).withoutRepeats
    refine ⟨_, resolved.mpr ⟨once, rfl⟩, ?_, ?_, ?_⟩
    · refine (css _).trans (Eq.trans ?_ (css blocks).symm)
      rw [firstOccurrences_withoutRepeats, List.filterMap_map]
      rfl
    · refine (js _).trans (Eq.trans ?_ (js blocks).symm)
      rw [firstOccurrences_withoutRepeats, List.filterMap_map]
      rfl
    · refine (shared _).trans (Eq.trans ?_ (congrArg _ (shared blocks)).symm)
      rw [firstOccurrences_withoutRepeats, List.flatMap_map, List.map_flatMap]
      simp only [map_among_sharedDiagnostics]
  · rintro start rest rfl
    have front := contributionsFrom_append registry start rest 0 []
    refine ⟨_, resolved.mpr ⟨speaks.front, rfl⟩, ?_, flatMap_prefix front, flatMap_prefix front,
      flatMap_prefix front⟩
    exact List.cons_prefix_cons.mpr ⟨rfl, flatMap_prefix front⟩

/-- A registry with a type whose style shows a colour and whose script fails. -/
def colourRegistry : Registry where
  baseStyle := .text "body"
  definitions := [
    { typeId := "card", name := "Card", html := .constant (.text "<i></i>"),
      css := .echo ".card " "colour" " ", js := .failing ⟨"ValueError", [.text "no"]⟩ }]
  distinct := by decide

/-- Two blocks of one type in different colours, with one of an unregistered type between them. -/
def colourBlocks : List Block :=
  [{ typeId := "card", config := .ofList [("colour", .text "red")] }, { typeId := "none" },
    { typeId := "card", config := .ofList [("colour", .text "blue")] }]

theorem resolve_once_colours :
    colourRegistry.baseStyle = .text "body" ∧
      ∃ tree, resolve colourRegistry .absent .absent (colourBlocks.map .checked) = .ok tree ∧
        tree.ContributedOnce colourRegistry .absent .absent "body" colourBlocks ∧
        tree.css = ["body", "/* --- Card --- */\n.card red"] := by
  have resolved :
      (resolve colourRegistry .absent .absent (colourBlocks.map .checked)).isOk = true := by
    decide +kernel
  cases passed : resolve colourRegistry .absent .absent (colourBlocks.map .checked) with
  | error problem =>
    rw [passed] at resolved
    cases resolved
  | ok tree =>
    have once := (resolve_once colourRegistry .absent .absent "body" rfl colourBlocks).2 tree passed
    refine ⟨rfl, tree, rfl, once, ?_⟩
    rw [once.css]
    decide +kernel

end BlockPage
