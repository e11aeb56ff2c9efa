/-
**What checked blocks contribute.**

Resolving can fail only on what cannot be reported. For checked blocks that is a failure without a text
in a template that is rendered. Otherwise what each block contributes is a plain function of its place,
the types before it and the outcomes of its templates.

* `Outcome.text?`, `Outcome.fragments`, `Outcome.message`: what an outcome gives and what is said of it.
* `Outcome.Speaks`, `Registry.Speaks`, `Registry.SpeaksFrom`: what is rendered can be reported.
* `contribution`, `contributionsFrom`: what one block adds, and what the blocks from a place on add.
* `contribute_eq_ok_iff`, `contributions_eq_ok_iff`, `resolve_eq_ok_iff`: resolving is exactly that;
  `resolve_checked` where every failure has a text.
-/

import BlockPage.Page.Resolution
import BlockPage.Proofs.Registry.Views
import BlockPage.Proofs.Traversal

namespace BlockPage

/-! ### Outcomes -/

/-- The text that an outcome is. -/
def Outcome.text? : Outcome → Option Text
  | .produced (.scalar (.text text)) => some text
  | _ => none

/-- The text of an outcome without blanks around it, unless nothing is left. -/
def Outcome.fragments (outcome : Outcome) : List Text :=
  (outcome.text?.map Text.strip).toList.filter (· ≠ [])

/-- What is said of an outcome that is no text. -/
def Outcome.message (part : Part) : Outcome → Text
  | .produced found => (Report.notText part found).message
  | .failed failure => Text.concat [failure.name, ": ", failure.message?.getD []]

/-- What the template of a part gives for a block. -/
def Block.outcome (block : Block) (definition : Definition) (part : Part) : Outcome :=
  definition.render part (Entries.ofConfig block.config)

/-- Every failure of a template of a registered type has a text. -/
def Registry.FailuresSpeak (registry : Registry) : Prop :=
  ∀ definition ∈ registry.definitions, ∀ part entries failure,
    definition.render part entries = .failed failure → failure.message?.isSome = true

/-- The outcome is no failure without a text. -/
def Outcome.Speaks (outcome : Outcome) : Prop :=
  ∀ failure, outcome = .failed failure → failure.message?.isSome = true

/-! ### Contributions -/

/-- The diagnostic of a block whose type is not registered. -/
def lookupDiagnostic (index : Nat) (block : Block) : Diagnostic :=
  ⟨index, block.typeId, block.instanceId, .lookup,
    Text.ofString "Unknown block type: " ++ block.typeId⟩

/-- The diagnostic of an outcome that is no text. -/
def partDiagnostics (index : Nat) (block : Block) (part : Part) (outcome : Outcome) :
    List Diagnostic :=
  if outcome.text?.isSome then []
  else [⟨index, block.typeId, block.instanceId, .part part, outcome.message part⟩]

/-- The parts that are rendered: style and script only for the first block of a type. -/
def renderedParts (first : Bool) : List Part := if first then Part.all else [.html]

/-- What a block of a registered type adds. -/
def knownContribution (definition : Definition) (index : Nat) (block : Block) (first : Bool) :
    Contribution where
  typeId := some block.typeId
  html := (block.outcome definition .html).fragments
  css := if first then (block.outcome definition .css).fragments.map (bannered definition) else []
  js := if first then (block.outcome definition .js).fragments else []
  diagnostics := (renderedParts first).flatMap fun part =>
    partDiagnostics index block part (block.outcome definition part)

/-- What a checked block adds at a place behind blocks of the types that were seen. -/
def contribution (registry : Registry) (index : Nat) (seen : List Text) (block : Block) :
    Contribution :=
  match registry.lookup? block.typeId with
  | none => { diagnostics := [lookupDiagnostic index block] }
  | some definition => knownContribution definition index block (!seen.contains block.typeId)

/-- What checked blocks add from a place on. -/
def contributionsFrom (registry : Registry) (index : Nat) (seen : List Text) :
    List Block → List Contribution
  | [] => []
  | block :: rest =>
    contribution registry index seen block ::
      contributionsFrom registry (index + 1)
        (seenAfter seen (contribution registry index seen block)) rest

/-- What is rendered of a block behind blocks of the types that were seen speaks. -/
def Registry.Speaks (registry : Registry) (seen : List Text) (block : Block) : Prop :=
  ∀ definition, registry.lookup? block.typeId = some definition →
    ∀ part ∈ renderedParts (!seen.contains block.typeId), (block.outcome definition part).Speaks

/-- What is rendered of blocks from a place on speaks. -/
def Registry.SpeaksFrom (registry : Registry) (index : Nat) (seen : List Text) : List Block → Prop
  | [] => True
  | block :: rest =>
    registry.Speaks seen block ∧
      registry.SpeaksFrom (index + 1) (seenAfter seen (contribution registry index seen block)) rest

theorem Registry.FailuresSpeak.speaksFrom {registry : Registry} (speaks : registry.FailuresSpeak)
    (blocks : List Block) : ∀ (index : Nat) (seen : List Text), registry.SpeaksFrom index seen blocks := by
  induction blocks with
  | nil => exact fun _ _ => trivial
  | cons block rest ih =>
    intro index seen
    refine ⟨fun definition found part _ failure => ?_, ih _ _⟩
    exact speaks definition (List.mem_of_find?_eq_some found) part _ failure

/-! ### Resolving checked blocks -/

section Checked

variable {registry : Registry} {definition : Definition} {block : Block} {index : Nat}

/-- A diagnostic about a checked block is never itself refused. -/
theorem diagnostic_checked (typeId : Text) (instanceId : Option Text) (stage : Stage)
    (message : Text) :
    Site.diagnostic ⟨index, .text typeId, .ofOption instanceId⟩ stage message =
      .ok ⟨index, typeId, instanceId, stage, message⟩ := by
  cases instanceId <;> rfl

/-- A text gives its fragment without the blanks around it. -/
theorem fragments_text (text : Text) :
    (Outcome.produced (.scalar (.text text))).fragments = Contribution.fragment (Text.strip text) := by
  show [Text.strip text].filter (· ≠ []) = _
  unfold Contribution.fragment
  cases Text.strip text <;> rfl

/-- A part whose failure has a text gives its fragments and diagnostics. -/
theorem contributePart_checked {part : Part}
    (speaks : (block.outcome definition part).Speaks) :
    contributePart definition ⟨index, .text block.typeId, .ofOption block.instanceId⟩
        (.ofConfig block.config) part =
      .ok ((block.outcome definition part).fragments,
        partDiagnostics index block part (block.outcome definition part)) := by
  have entries : (Value.ofConfig block.config).toEntries = .ok (Entries.ofConfig block.config) := rfl
  have outcome : definition.render part (Entries.ofConfig block.config) =
      block.outcome definition part := rfl
  unfold contributePart renderPart
  rw [entries]
  dsimp only [bind, Except.bind]
  rw [outcome]
  generalize block.outcome definition part = outcome at speaks
  cases outcome with
  | failed failure =>
    obtain ⟨text, spoken⟩ := Option.isSome_iff_exists.mp (speaks failure rfl)
    have report : Report.ofFailure failure =
        .ok ⟨text, Text.concat [failure.name, ": ", text]⟩ := by
      rw [Report.ofFailure, spoken]
    dsimp only
    rw [report]
    dsimp only [pure, Except.pure]
    rw [diagnostic_checked, partDiagnostics, Outcome.message, spoken]
    rfl
  | produced value =>
    -- what is no text is reported alike, whatever kind it has
    cases value with
    | scalar scalar =>
      cases scalar with
      | text text => rw [fragments_text]; rfl
      | _ => dsimp only [pure, Except.pure]; rw [diagnostic_checked]; rfl
    | _ => dsimp only [pure, Except.pure]; rw [diagnostic_checked]; rfl

/-- A failure without a text cannot be reported. -/
theorem contributePart_silent {part : Part} {failure : Failure}
    (failed : block.outcome definition part = .failed failure) (silent : failure.message? = none) :
    contributePart definition ⟨index, .text block.typeId, .ofOption block.instanceId⟩
        (.ofConfig block.config) part = .error Value.tooLongToWrite := by
  have entries : (Value.ofConfig block.config).toEntries = .ok (Entries.ofConfig block.config) := rfl
  have outcome : definition.render part (Entries.ofConfig block.config) = .failed failure := failed
  have report : Report.ofFailure failure = .error Value.tooLongToWrite := by
    rw [Report.ofFailure, silent]
  unfold contributePart renderPart
  rw [entries]
  dsimp only [bind, Except.bind]
  rw [outcome]
  dsimp only
  rw [report]

/-- **A part is contributed unless it fails without a text**, with the fragments and diagnostics of its
outcome. -/
theorem contributePart_eq_ok_iff {part : Part} {result : List Text × List Diagnostic} :
    contributePart definition ⟨index, .text block.typeId, .ofOption block.instanceId⟩
        (.ofConfig block.config) part = .ok result ↔
      (block.outcome definition part).Speaks ∧
        result = ((block.outcome definition part).fragments,
          partDiagnostics index block part (block.outcome definition part)) := by
  by_cases speaks : (block.outcome definition part).Speaks
  · rw [contributePart_checked speaks, Except.ok.injEq, and_iff_right speaks, eq_comm]
  · refine iff_of_false ?_ fun both => speaks both.1
    unfold Outcome.Speaks at speaks
    push Not at speaks
    obtain ⟨failure, failed, silent⟩ := speaks
    rw [contributePart_silent failed (by simpa using silent)]
    exact fun passed => nomatch passed

theorem contributeKnown_eq_ok_iff (same : definition.typeId = block.typeId) {first : Bool}
    {added : Contribution} :
    contributeKnown definition ⟨index, .text block.typeId, .ofOption block.instanceId⟩
        (.ofConfig block.config) first = .ok added ↔
      (∀ part ∈ renderedParts first, (block.outcome definition part).Speaks) ∧
        added = knownContribution definition index block first := by
  unfold contributeKnown
  rw [bind_eq_ok_iff]
  simp only [contributePart_eq_ok_iff]
  cases first with
  | false =>
    simp [knownContribution, renderedParts, pure, Except.pure, same, eq_comm (a := added)]
  | true =>
    simp [knownContribution, renderedParts, Part.all, bind_eq_ok_iff, contributePart_eq_ok_iff, pure,
      Except.pure, same, eq_comm (a := added), and_assoc]

/-- **One checked block.** -/
theorem contribute_eq_ok_iff {seen : List Text} {added : Contribution} :
    contribute registry index seen (.checked block) = .ok added ↔
      registry.Speaks seen block ∧ added = contribution registry index seen block := by
  have found : registry.find (.text block.typeId) = .ok (registry.lookup? block.typeId) := rfl
  unfold contribute contribution Registry.Speaks
  dsimp only [Placement.typeId, Placement.instanceId, Placement.config, bind, Except.bind]
  rw [found]
  dsimp only
  cases known : registry.lookup? block.typeId with
  | none =>
    have message : Registry.unknownTypeMessage (.text block.typeId) =
        .ok (Text.ofString "Unknown block type: " ++ block.typeId) := rfl
    unfold contributeUnknown
    rw [message]
    dsimp only [bind, Except.bind]
    rw [diagnostic_checked]
    refine ⟨fun passed => ⟨fun _ inside => (nomatch inside), (Except.ok.inj passed).symm⟩, ?_⟩
    rintro ⟨-, rfl⟩
    rfl
  | some definition =>
    obtain ⟨same, inside⟩ := lookup?_typeId known
    dsimp only
    rw [same, contributeKnown_eq_ok_iff same]
    refine and_congr_left fun _ => ⟨?_, fun speaks => speaks definition rfl⟩
    rintro speaks _ ⟨⟩
    exact speaks

/-- The loop over the blocks, with what is done so far as an accumulator in reverse. -/
theorem contributeAll_eq_ok_iff (blocks : List Block) :
    ∀ (index : Nat) (seen : List Text) (done parts : List Contribution),
      contributeAll registry index seen done (blocks.map .checked) = .ok parts ↔
        registry.SpeaksFrom index seen blocks ∧
          parts = (contributionsFrom registry index seen blocks).reverse ++ done := by
  induction blocks with
  | nil =>
    intro index seen done parts
    exact ⟨fun passed => ⟨trivial, (Except.ok.inj passed).symm⟩, fun both => by rw [both.2]; rfl⟩
  | cons block rest ih =>
    intro index seen done parts
    rw [List.map_cons, contributeAll, Registry.SpeaksFrom, contributionsFrom, List.reverse_cons,
      List.append_assoc]
    cases added : contribute registry index seen (.checked block) with
    | error problem =>
      refine iff_of_false (fun passed => nomatch passed) fun all => ?_
      have passed := (@contribute_eq_ok_iff registry block index _ _).mpr ⟨all.1.1, rfl⟩
      rw [added] at passed
      cases passed
    | ok contributed =>
      obtain ⟨speaks, rfl⟩ := contribute_eq_ok_iff.mp added
      rw [and_iff_right speaks]
      exact ih (index + 1) (seenAfter seen _) (_ :: done) parts

/-- **Blocks are resolved exactly when every failure along them has a text.** -/
theorem contributions_eq_ok_iff {blocks : List Block} {parts : List Contribution} :
    contributions registry (blocks.map .checked) = .ok parts ↔
      registry.SpeaksFrom 0 [] blocks ∧ parts = contributionsFrom registry 0 [] blocks := by
  have backward := @contributeAll_eq_ok_iff registry blocks 0 [] [] parts.reverse
  rw [List.append_nil, List.reverse_inj] at backward
  rw [← backward, contributions]
  cases contributeAll registry 0 [] [] (blocks.map .checked) with
  | error problem => exact iff_of_false (fun passed => nomatch passed) fun passed => nomatch passed
  | ok added =>
    show Except.ok added.reverse = .ok parts ↔ Except.ok added = .ok parts.reverse
    rw [Except.ok.injEq, Except.ok.injEq, List.reverse_eq_iff]

/-- **All checked blocks.** -/
theorem resolve_eq_ok_iff {base : Text} (style : registry.baseStyle = .text base)
    {navigation footer : Value} {blocks : List Block} {tree : RenderTree} :
    resolve registry navigation footer (blocks.map .checked) = .ok tree ↔
      registry.SpeaksFrom 0 [] blocks ∧
        tree = assemble navigation footer base (contributionsFrom registry 0 [] blocks) := by
  have baseStyle : readBaseStyle registry = .ok base := by
    rw [readBaseStyle, style]
    rfl
  unfold resolve
  rw [bind_eq_ok_iff]
  simp only [contributions_eq_ok_iff, baseStyle]
  constructor
  · rintro ⟨parts, ⟨speaks, rfl⟩, assembled⟩
    exact ⟨speaks, (Except.ok.inj assembled).symm⟩
  · rintro ⟨speaks, rfl⟩
    exact ⟨_, ⟨speaks, rfl⟩, rfl⟩

/-- Where every failure has a text, checked blocks are always resolved. -/
theorem resolve_checked {base : Text} (style : registry.baseStyle = .text base)
    (speaks : registry.FailuresSpeak) (navigation footer : Value) (blocks : List Block) :
    resolve registry navigation footer (blocks.map .checked) =
      .ok (assemble navigation footer base (contributionsFrom registry 0 [] blocks)) :=
  (resolve_eq_ok_iff style).mpr ⟨speaks.speaksFrom blocks 0 [], rfl⟩

end Checked

end BlockPage
