/-
**Resolution loses nothing and misattributes nothing.**

* `Diagnostic.Precedes`: the order of diagnostics, by place and then by stage.
* `RenderTree.Resolves`: what a resolved page says about its markup, its summary and its diagnostics.
* `html_contributionsFrom`, `typeIds_contributionsFrom`: markup and types do not depend on what came
  before.
* `mem_diagnostics`, `diagnostics_at`, `pairwise_diagnostics`: every diagnostic belongs to its place.
* `output_unregistered`: blocks of types that are not registered add nothing else.
* `resolve_resolves`: all of it for checked blocks.
-/

import BlockPage.Proofs.Page.Contributions

namespace BlockPage

/-! ### The order of diagnostics -/

/-- The place of a stage among all stages. -/
def Stage.rank (stage : Stage) : Nat := Stage.all.idxOf stage

/-- A diagnostic about an earlier block, or about an earlier stage of the same block. -/
def Diagnostic.Precedes (first second : Diagnostic) : Prop :=
  first.index < second.index ∨
    (first.index = second.index ∧ first.stage.rank < second.stage.rank)

/-! ### What a resolved page says -/

/-- A page that says of blocks what they give, each under its own place. -/
structure RenderTree.Resolves (tree : RenderTree) (registry : Registry) (navigation footer : Text)
    (blocks : List Block) : Prop where
  /-- The markup is that of the registered blocks in order, stripped, where it is text and not blank. -/
  html : tree.html = (blocks.filterMap fun block =>
    (registry.lookup? block.typeId).bind fun definition =>
      (block.outcome definition .html).text?.map Text.strip).filter (· ≠ [])
  blockCount : tree.summary.blockCount = blocks.length
  /-- The types are those of the registered blocks, also of those whose templates failed. -/
  typeIds : tree.summary.typeIds = (blocks.map Block.typeId).filter registry.contains
  navigation : tree.summary.hasNavigation = true ↔ navigation ∈ tree.summary.typeIds
  footer : tree.summary.hasFooter = true ↔ footer ∈ tree.summary.typeIds
  ordered : tree.diagnostics.Pairwise Diagnostic.Precedes
  attributed : ∀ diagnostic ∈ tree.diagnostics, ∃ index block, blocks[index]? = some block ∧
    diagnostic.index = (index : Nat) ∧ diagnostic.typeId = block.typeId ∧
    diagnostic.instanceId = block.instanceId
  unregistered : ∀ (index : Nat) block, blocks[index]? = some block →
    registry.contains block.typeId = false →
    tree.diagnostics.filter (·.index = (index : Int)) = [lookupDiagnostic index block]
  registered : ∀ (index : Nat) block definition, blocks[index]? = some block →
    registry.lookup? block.typeId = some definition →
    ((∃ diagnostic ∈ tree.diagnostics, diagnostic.index = index ∧ diagnostic.stage = .part .html) ↔
      (block.outcome definition .html).text? = none)

section Contributions

variable (registry : Registry)

/-! ### Markup and types -/

/-- The markup of one block. -/
theorem html_contribution (index : Nat) (seen : List Text) (block : Block) :
    (contribution registry index seen block).html =
      (((registry.lookup? block.typeId).bind fun definition =>
        (block.outcome definition .html).text?.map Text.strip).toList.filter (· ≠ [])) := by
  unfold contribution
  cases registry.lookup? block.typeId <;> rfl

theorem typeId_contribution (index : Nat) (seen : List Text) (block : Block) :
    (contribution registry index seen block).typeId.toList =
      [block.typeId].filter registry.contains := by
  unfold contribution
  cases found : registry.lookup? block.typeId with
  | none =>
    rw [List.filter_cons_of_neg]
    · rfl
    · rw [contains_iff_lookup?, found]
      decide
  | some definition =>
    rw [List.filter_cons_of_pos]
    · rfl
    · rw [contains_iff_lookup?, found]
      rfl

/-- The markup of all blocks: what their templates give, stripped, without what is blank. -/
theorem html_contributionsFrom (blocks : List Block) :
    ∀ (index : Nat) (seen : List Text),
      (contributionsFrom registry index seen blocks).flatMap Contribution.html =
        (blocks.filterMap fun block => (registry.lookup? block.typeId).bind fun definition =>
          (block.outcome definition .html).text?.map Text.strip).filter (· ≠ []) := by
  induction blocks with
  | nil => exact fun _ _ => rfl
  | cons block rest ih =>
    intro index seen
    rw [contributionsFrom, List.flatMap_cons, ih, html_contribution, ← List.filter_append,
      List.filterMap_cons]
    congr 1
    split <;> rename_i same <;> rw [same] <;> rfl

/-- The types of all contributions are the registered ones, in the order of the blocks. -/
theorem typeIds_contributionsFrom (blocks : List Block) :
    ∀ (index : Nat) (seen : List Text),
      (contributionsFrom registry index seen blocks).filterMap Contribution.typeId =
        (blocks.map Block.typeId).filter registry.contains := by
  induction blocks with
  | nil => exact fun _ _ => rfl
  | cons block rest ih =>
    intro index seen
    have here := typeId_contribution registry index seen block
    have apart : (block.typeId :: rest.map Block.typeId).filter registry.contains =
        [block.typeId].filter registry.contains ++ (rest.map Block.typeId).filter registry.contains :=
      List.filter_append [block.typeId] _
    rw [contributionsFrom, List.map_cons, apart, ← here,
      ← ih (index + 1) (seenAfter seen (contribution registry index seen block)), List.filterMap_cons]
    split <;> rename_i same <;> rw [same] <;> rfl

/-- Every block contributes once, be it only a diagnostic. -/
theorem length_contributionsFrom (blocks : List Block) :
    ∀ (index : Nat) (seen : List Text),
      (contributionsFrom registry index seen blocks).length = blocks.length := by
  induction blocks with
  | nil => exact fun _ _ => rfl
  | cons block rest ih =>
    intro index seen
    rw [contributionsFrom, List.length_cons, ih, List.length_cons]

/-! ### The diagnostics of one block -/

/-- A part is reported when it gives no text, with the message of its outcome. -/
theorem mem_partDiagnostics {index : Nat} {block : Block} {part : Part} {outcome : Outcome}
    {diagnostic : Diagnostic} :
    diagnostic ∈ partDiagnostics index block part outcome ↔ outcome.text? = none ∧
      diagnostic = ⟨index, block.typeId, block.instanceId, .part part, outcome.message part⟩ := by
  unfold partDiagnostics
  cases outcome.text? with
  | none => simp
  | some text => simp

/-- The block at a place is the subject of a diagnostic. -/
def Diagnostic.IsAbout (diagnostic : Diagnostic) (index : Nat) (block : Block) : Prop :=
  diagnostic.index = index ∧ diagnostic.typeId = block.typeId ∧
    diagnostic.instanceId = block.instanceId

theorem isAbout_of_mem_contribution {index : Nat} {seen : List Text} {block : Block}
    {diagnostic : Diagnostic}
    (inside : diagnostic ∈ (contribution registry index seen block).diagnostics) :
    diagnostic.IsAbout index block := by
  unfold contribution at inside
  cases found : registry.lookup? block.typeId with
  | none =>
    rw [found] at inside
    rw [List.mem_singleton.mp inside]
    exact ⟨rfl, rfl, rfl⟩
  | some definition =>
    rw [found] at inside
    obtain ⟨part, _, inside⟩ := List.mem_flatMap.mp inside
    rw [(mem_partDiagnostics.mp inside).2]
    exact ⟨rfl, rfl, rfl⟩

/-- A registered block is reported for its markup just when that is no text. -/
theorem exists_html_diagnostic_iff (definition : Definition) (index : Nat) (block : Block)
    (first : Bool) :
    (∃ diagnostic ∈ (knownContribution definition index block first).diagnostics,
      diagnostic.stage = .part .html) ↔ (block.outcome definition .html).text? = none := by
  constructor
  · rintro ⟨diagnostic, inside, stage⟩
    obtain ⟨part, _, inside⟩ := List.mem_flatMap.mp inside
    obtain ⟨textless, rfl⟩ := mem_partDiagnostics.mp inside
    cases stage
    exact textless
  · intro textless
    have rendered : .html ∈ renderedParts first := by
      cases first <;> decide
    exact ⟨_, List.mem_flatMap.mpr ⟨.html, rendered, mem_partDiagnostics.mpr ⟨textless, rfl⟩⟩, rfl⟩

theorem pairwise_contribution (index : Nat) (seen : List Text) (block : Block) :
    (contribution registry index seen block).diagnostics.Pairwise Diagnostic.Precedes := by
  unfold contribution
  cases registry.lookup? block.typeId with
  | none => exact List.pairwise_singleton _ _
  | some definition =>
    have ranks : ∀ first, (renderedParts first).Pairwise fun part other =>
        Stage.rank (.part part) < Stage.rank (.part other) := by
      decide
    refine List.pairwise_flatMap.mpr ⟨?_, (ranks _).imp ?_⟩
    · intro part _
      unfold partDiagnostics
      split
      · exact List.Pairwise.nil
      · exact List.pairwise_singleton _ _
    · intro part other below first isFirst second isSecond
      rw [(mem_partDiagnostics.mp isFirst).2, (mem_partDiagnostics.mp isSecond).2]
      exact .inr ⟨rfl, below⟩

/-! ### The diagnostics of all blocks -/

theorem mem_diagnostics (blocks : List Block) :
    ∀ {index : Nat} {seen : List Text} {diagnostic : Diagnostic},
      diagnostic ∈ (contributionsFrom registry index seen blocks).flatMap Contribution.diagnostics →
      ∃ (offset : Nat) (block : Block), blocks[offset]? = some block ∧
        diagnostic.IsAbout (index + offset) block := by
  induction blocks with
  | nil => exact fun inside => nomatch inside
  | cons block rest ih =>
    intro index seen diagnostic inside
    rw [contributionsFrom, List.flatMap_cons] at inside
    rcases List.mem_append.mp inside with here | behind
    · exact ⟨0, block, rfl, isAbout_of_mem_contribution registry here⟩
    · obtain ⟨offset, other, found, about⟩ := ih behind
      refine ⟨offset + 1, other, found, ?_⟩
      rwa [← Nat.add_assoc, Nat.add_right_comm]

/-- Later blocks have later places. -/
theorem index_lt_of_mem {blocks : List Block} {index : Nat} {seen : List Text}
    {diagnostic : Diagnostic}
    (inside : diagnostic ∈
      (contributionsFrom registry (index + 1) seen blocks).flatMap Contribution.diagnostics) :
    (index : Int) < diagnostic.index := by
  obtain ⟨offset, block, _, same, _⟩ := mem_diagnostics registry blocks inside
  omega

/-- All diagnostics stand in the order of the places and, at one place, of the stages. -/
theorem pairwise_diagnostics (blocks : List Block) :
    ∀ (index : Nat) (seen : List Text),
      ((contributionsFrom registry index seen blocks).flatMap Contribution.diagnostics).Pairwise
        Diagnostic.Precedes := by
  induction blocks with
  | nil => exact fun _ _ => List.Pairwise.nil
  | cons block rest ih =>
    intro index seen
    rw [contributionsFrom, List.flatMap_cons, List.pairwise_append]
    refine ⟨pairwise_contribution registry index seen block, ih _ _, ?_⟩
    intro first here second behind
    have same := (isAbout_of_mem_contribution registry here).1
    have later := index_lt_of_mem registry behind
    exact .inl (by rw [same]; exact later)

/-- The diagnostics at a place are those of the block there. -/
theorem diagnostics_at {block : Block} (blocks : List Block) :
    ∀ {index : Nat} {seen : List Text} {offset : Nat}, blocks[offset]? = some block →
      ∃ seen', ((contributionsFrom registry index seen blocks).flatMap
          Contribution.diagnostics).filter (·.index = ((index + offset : Nat) : Int)) =
        (contribution registry (index + offset) seen' block).diagnostics := by
  induction blocks with
  | nil => exact fun found => nomatch found
  | cons first rest ih =>
    intro index seen offset found
    rw [contributionsFrom, List.flatMap_cons, List.filter_append]
    cases offset with
    | zero =>
      cases found
      have here : (contribution registry index seen block).diagnostics.filter
          (·.index = ((index + 0 : Nat) : Int)) =
          (contribution registry index seen block).diagnostics :=
        List.filter_eq_self.mpr fun diagnostic inside =>
          decide_eq_true (isAbout_of_mem_contribution registry inside).1
      have behind : ((contributionsFrom registry (index + 1)
          (seenAfter seen (contribution registry index seen block)) rest).flatMap
          Contribution.diagnostics).filter (·.index = ((index + 0 : Nat) : Int)) = [] := by
        refine List.filter_eq_nil_iff.mpr fun diagnostic inside same => ?_
        have later := index_lt_of_mem registry inside
        have place := of_decide_eq_true same
        omega
      rw [here, behind, List.append_nil]
      exact ⟨seen, rfl⟩
    | succ offset =>
      have here : (contribution registry index seen first).diagnostics.filter
          (·.index = ((index + (offset + 1) : Nat) : Int)) = [] := by
        refine List.filter_eq_nil_iff.mpr fun diagnostic inside same => ?_
        have place := (isAbout_of_mem_contribution registry inside).1
        have other := of_decide_eq_true same
        omega
      have behind :=
        @ih (index + 1) (seenAfter seen (contribution registry index seen first)) offset found
      rw [here, List.nil_append]
      rwa [Nat.add_right_comm, Nat.add_assoc] at behind

/-! ### Blocks of types that are not registered -/

/-- The blocks whose types are registered. -/
def Registry.known (blocks : List Block) : List Block :=
  blocks.filter fun block => registry.contains block.typeId

/-- What a contribution is besides its diagnostics. -/
def Contribution.output (contribution : Contribution) : Contribution :=
  { contribution with diagnostics := [] }

/-- Its place only tells in the diagnostics of a block. -/
theorem output_contribution (index place : Nat) (seen : List Text) (block : Block) :
    (contribution registry index seen block).output =
      (contribution registry place seen block).output := by
  unfold contribution
  cases registry.lookup? block.typeId <;> rfl

/-- A block of an unknown type contributes nothing but the diagnostic that says so. -/
theorem output_unregistered {index : Nat} {seen : List Text} {block : Block}
    (unregistered : registry.contains block.typeId = false) :
    contribution registry index seen block = { diagnostics := [lookupDiagnostic index block] } := by
  rw [contains_iff_lookup?, Option.isSome_eq_false_iff, Option.isNone_iff_eq_none] at unregistered
  rw [contribution, unregistered]

/-- What is seen behind a block depends on the type of its contribution only. -/
theorem seenAfter_output (seen : List Text) (contribution : Contribution) :
    seenAfter seen contribution.output = seenAfter seen contribution := rfl

/-- Without the blocks of types that are not registered the other blocks add the same. -/
theorem flatMap_known {α : Type} (read : Contribution → List α)
    (plain : ∀ contribution, read contribution = read contribution.output) (nothing : read {} = [])
    (blocks : List Block) :
    ∀ (index place : Nat) (seen : List Text),
      (contributionsFrom registry place seen (registry.known blocks)).flatMap read =
        (contributionsFrom registry index seen blocks).flatMap read := by
  unfold Registry.known
  induction blocks with
  | nil => exact fun _ _ _ => rfl
  | cons block rest ih =>
    -- a block that is left out shifts the places behind it, so each list counts its own
    intro index place seen
    rw [contributionsFrom, List.flatMap_cons]
    cases registered : registry.contains block.typeId with
    | false =>
      rw [List.filter_cons_of_neg (by rw [registered]; decide), output_unregistered registry registered]
      have unread : read { diagnostics := [lookupDiagnostic index block] } = [] := by
        rw [plain]
        exact nothing
      rw [unread, List.nil_append]
      exact ih (index + 1) place seen
    | true =>
      have same := output_contribution registry place index seen block
      have seen_eq : seenAfter seen (contribution registry place seen block) =
          seenAfter seen (contribution registry index seen block) := by
        rw [← seenAfter_output, same, seenAfter_output]
      rw [List.filter_cons_of_pos (by rw [registered]), contributionsFrom, List.flatMap_cons,
        plain (contribution registry place seen block), same, ← plain, seen_eq]
      congr 1
      exact ih (index + 1) (place + 1) _

end Contributions

/-! ### Resolution -/

/-- The check of the program for a type among the types is membership. -/
theorem any_isText_iff (typeIds : List Text) (typeId : Text) :
    typeIds.any (Value.isText · (.text typeId)) = true ↔ typeId ∈ typeIds := by
  rw [List.any_eq_true]
  constructor
  · rintro ⟨other, inside, same⟩
    exact eq_of_beq same ▸ inside
  · exact fun inside => ⟨typeId, inside, beq_self_eq_true _⟩

/-- A page that is assembled from the contributions of blocks says what they give. -/
theorem assemble_resolves (registry : Registry) (navigation footer base : Text) (blocks : List Block) :
    (assemble (.text navigation) (.text footer) base
      (contributionsFrom registry 0 [] blocks)).Resolves registry navigation footer blocks where
  html := html_contributionsFrom registry blocks 0 []
  blockCount := by
    show ((contributionsFrom registry 0 [] blocks).length : Int) = _
    rw [length_contributionsFrom]
  typeIds := typeIds_contributionsFrom registry blocks 0 []
  navigation := any_isText_iff _ navigation
  footer := any_isText_iff _ footer
  ordered := pairwise_diagnostics registry blocks 0 []
  attributed := by
    intro diagnostic inside
    obtain ⟨offset, block, found, about⟩ := mem_diagnostics registry blocks inside
    rw [Nat.zero_add] at about
    exact ⟨offset, block, found, about⟩
  unregistered := by
    intro index block found unregistered
    obtain ⟨seen, same⟩ := @diagnostics_at registry block blocks 0 [] index found
    rw [Nat.zero_add, output_unregistered registry unregistered] at same
    exact same
  registered := by
    intro index block definition found registered
    obtain ⟨seen, same⟩ := @diagnostics_at registry block blocks 0 [] index found
    rw [Nat.zero_add, contribution, registered] at same
    rw [← exists_html_diagnostic_iff definition index block (!seen.contains block.typeId)]
    have here : ∀ diagnostic : Diagnostic,
        diagnostic ∈
            (knownContribution definition index block (!seen.contains block.typeId)).diagnostics ↔
          diagnostic ∈ (contributionsFrom registry 0 [] blocks).flatMap Contribution.diagnostics ∧
            diagnostic.index = (index : Int) := by
      intro diagnostic
      rw [← same, List.mem_filter, decide_eq_true_iff]
    constructor
    · rintro ⟨diagnostic, inside, place, stage⟩
      exact ⟨diagnostic, (here diagnostic).mpr ⟨inside, place⟩, stage⟩
    · rintro ⟨diagnostic, inside, stage⟩
      obtain ⟨listed, place⟩ := (here diagnostic).mp inside
      exact ⟨diagnostic, listed, place, stage⟩

/-- **Resolution loses nothing and misattributes nothing.** Over a registry with a text as its shared
style, all of whose failures have a text, checked blocks are always resolved. The page says what they
give, each under its own place, and the blocks of types that are not registered change nothing else. -/
theorem resolve_resolves (registry : Registry) (navigation footer base : Text) (blocks : List Block)
    (style : registry.baseStyle = .text base) (speaks : registry.FailuresSpeak) :
    ∃ tree, resolve registry (.text navigation) (.text footer) (blocks.map .checked) = .ok tree ∧
      tree.Resolves registry navigation footer blocks ∧
      ∃ other, resolve registry (.text navigation) (.text footer)
          ((registry.known blocks).map .checked) = .ok other ∧
        other.html = tree.html ∧ other.css = tree.css ∧ other.js = tree.js := by
  refine ⟨_, resolve_checked style speaks _ _ blocks, assemble_resolves _ _ _ _ blocks, _,
    resolve_checked style speaks _ _ (registry.known blocks), ?_, ?_, ?_⟩
  · exact flatMap_known registry Contribution.html (fun _ => rfl) rfl blocks 0 0 []
  · exact congrArg (base :: ·)
      (flatMap_known registry Contribution.css (fun _ => rfl) rfl blocks 0 0 [])
  · exact flatMap_known registry Contribution.js (fun _ => rfl) rfl blocks 0 0 []

/-- A registry with a type that renders and one whose markup fails and whose style is no text. -/
def mixedRegistry : Registry where
  baseStyle := .text "body \x7b\x7d"
  definitions := [
    { typeId := "hero", name := "Hero", html := .constant (.text " <h1></h1> ") },
    { typeId := "broken", name := "Broken", html := .failing ⟨"ValueError", [.text "no"]⟩,
      css := .constant (.integer 3) }]
  distinct := by decide

theorem mixedRegistry_failuresSpeak : mixedRegistry.FailuresSpeak := by
  intro definition inside part entries failure failed
  rcases List.mem_cons.mp inside with rfl | inside
  · cases part <;> cases failed
  · rw [List.mem_singleton.mp inside] at failed
    cases part <;> cases failed
    rfl

/-- Blocks of a type that renders, of one that fails and of one that is not registered. -/
def mixedBlocks : List Block :=
  [{ typeId := "broken" }, { typeId := "none", instanceId := some "second" }, { typeId := "hero" }]

theorem resolve_resolves_mixed :
    mixedRegistry.baseStyle = .text "body \x7b\x7d" ∧ mixedRegistry.FailuresSpeak ∧
      ∃ tree, resolve mixedRegistry (.text "hero") (.text "footer") (mixedBlocks.map .checked) =
          .ok tree ∧
        tree.Resolves mixedRegistry "hero" "footer" mixedBlocks ∧
        ∃ other, resolve mixedRegistry (.text "hero") (.text "footer")
            ((mixedRegistry.known mixedBlocks).map .checked) = .ok other ∧
          other.html = tree.html ∧ other.css = tree.css ∧ other.js = tree.js :=
  ⟨rfl, mixedRegistry_failuresSpeak,
    resolve_resolves mixedRegistry "hero" "footer" _ mixedBlocks rfl mixedRegistry_failuresSpeak⟩

end BlockPage
