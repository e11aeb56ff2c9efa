/-
**The two forms of a page.**

A page is generated as three files or as one document. Both take the same way up to the fragments and then
fill the same shell, so they can only differ where the shell names its style and its script. Whether there
is a script is asked three times on the way, each time differently; the answers agree because no script
that was resolved is blank. The files alone are advised on, which checked blocks never make fail.

* `mem_of_contributeAll`, `resolve_eq_ok`: what is on a resolved page has been contributed.
* `script_not_blank`: no script of a resolved page is blank.
* `compileScript_eq_noScript_iff`: when a page has no script.
* `TwoForms`: what the files and the document share, and where they differ; `twoForms_compile`.
* `Value.HoldsChecked`, `exists_advice`: blocks that are handed in checked can be advised on.
* `generate_preview`: both forms of all that is handed in.
-/

import BlockPage.Page.Generation
import BlockPage.Proofs.Page.StandardPages
import BlockPage.Proofs.Text.Parts

namespace BlockPage

/-! ### What has contributed -/

/-- A block adds a contribution, wherever it stands. -/
def Contributes (registry : Registry) (placement : Placement) (part : Contribution) : Prop :=
  ∃ index seen, contribute registry index seen placement = .ok part

/-- What has been contributed is from one of the blocks. -/
theorem mem_of_contributeAll {registry : Registry} (placements : List Placement) :
    ∀ {index : Nat} {seen : List Text} {done parts : List Contribution},
      contributeAll registry index seen done placements = .ok parts →
      ∀ part ∈ parts, part ∈ done ∨ ∃ placement, Contributes registry placement part := by
  induction placements with
  | nil =>
    intro index seen done parts passed
    cases passed
    exact fun _ inside => .inl inside
  | cons placement rest ih =>
    intro index seen done parts passed
    rw [contributeAll] at passed
    split at passed
    · cases passed
    · rename_i part here
      intro other inside
      rcases ih passed other inside with behind | later
      · rcases List.mem_cons.mp behind with rfl | earlier
        · exact .inr ⟨placement, index, seen, here⟩
        · exact .inl earlier
      · exact .inr later

/-- A resolved page is assembled from what its blocks have contributed. -/
theorem resolve_eq_ok {registry : Registry} {navigation footer : Value}
    {placements : List Placement} {tree : RenderTree}
    (resolved : resolve registry navigation footer placements = .ok tree) :
    ∃ base parts, tree = assemble navigation footer base parts ∧
      ∀ part ∈ parts, ∃ placement, Contributes registry placement part := by
  obtain ⟨parts, contributed, resolved⟩ := bind_eq_ok_iff.mp resolved
  obtain ⟨base, _, resolved⟩ := bind_eq_ok_iff.mp resolved
  rw [contributions] at contributed
  cases passed : contributeAll registry 0 [] [] placements with
  | error problem =>
    rw [passed] at contributed
    cases contributed
  | ok backward =>
    rw [passed] at contributed
    cases contributed
    cases resolved
    refine ⟨base, backward.reverse, rfl, fun part inside => ?_⟩
    exact (mem_of_contributeAll placements passed part (List.mem_reverse.mp inside)).resolve_left
      List.not_mem_nil

/-! ### Scripts -/

/-- A fragment is never blank: one that would be is left out. -/
theorem fragment_not_blank {text fragment : Text}
    (inside : fragment ∈ Contribution.fragment (Text.strip text)) :
    Text.isAllBlank fragment = false := by
  unfold Contribution.fragment at inside
  split at inside
  · cases inside
  · rename_i left
    rw [List.mem_singleton.mp inside]
    exact Text.isAllBlank_strip fun empty => left (by rw [empty]; rfl)

theorem contributePart_not_blank {definition : Definition} {site : Site} {config : Value} {part : Part}
    {result : List Text × List Diagnostic}
    (contributed : contributePart definition site config part = .ok result) :
    ∀ fragment ∈ result.1, Text.isAllBlank fragment = false := by
  obtain ⟨rendered, here, contributed⟩ := bind_eq_ok_iff.mp contributed
  cases rendered with
  | error report =>
    obtain ⟨diagnostic, _, contributed⟩ := bind_eq_ok_iff.mp contributed
    cases contributed
    exact fun _ inside => nomatch inside
  | ok text =>
    cases contributed
    obtain ⟨entries, _, here⟩ := bind_eq_ok_iff.mp here
    split at here
    · cases here
      exact fun _ inside => fragment_not_blank inside
    · cases here
    · obtain ⟨_, _, here⟩ := bind_eq_ok_iff.mp here
      cases here

theorem Contributes.script_not_blank {registry : Registry} {placement : Placement}
    {part : Contribution} (contributes : Contributes registry placement part) :
    ∀ fragment ∈ part.js, Text.isAllBlank fragment = false := by
  obtain ⟨index, seen, contributed⟩ := contributes
  obtain ⟨typeId, _, contributed⟩ := bind_eq_ok_iff.mp contributed
  obtain ⟨found, _, contributed⟩ := bind_eq_ok_iff.mp contributed
  cases found with
  | none =>
    obtain ⟨_, _, contributed⟩ := bind_eq_ok_iff.mp contributed
    obtain ⟨_, _, contributed⟩ := bind_eq_ok_iff.mp contributed
    cases contributed
    exact fun _ inside => nomatch inside
  | some definition =>
    obtain ⟨html, _, contributed⟩ := bind_eq_ok_iff.mp contributed
    split at contributed
    · obtain ⟨css, _, contributed⟩ := bind_eq_ok_iff.mp contributed
      obtain ⟨js, script, contributed⟩ := bind_eq_ok_iff.mp contributed
      cases contributed
      exact contributePart_not_blank script
    · cases contributed
      exact fun _ inside => nomatch inside

/-- No script of a resolved page is blank. -/
theorem script_not_blank {registry : Registry} {navigation footer : Value}
    {placements : List Placement} {tree : RenderTree}
    (resolved : resolve registry navigation footer placements = .ok tree) :
    ∀ fragment ∈ tree.js, Text.isAllBlank fragment = false := by
  obtain ⟨base, parts, rfl, only⟩ := resolve_eq_ok resolved
  intro fragment inside
  obtain ⟨part, listed, inside⟩ := List.mem_flatMap.mp inside
  obtain ⟨placement, contributes⟩ := only part listed
  exact contributes.script_not_blank fragment inside

theorem take_ofLines (first : Text) (rest : List Text) {count : Nat} (long : count ≤ first.length) :
    (ofLines (first :: rest)).take count = first.take count := by
  cases rest with
  | nil => rw [ofLines, Text.join, List.intercalate_singleton]
  | cons second rest =>
    rw [ofLines, Text.join, List.intercalate_cons_cons, List.append_assoc,
      List.take_append_of_le_length long]

/-- A script starts with its own headline. -/
theorem take_compileScript {tree : RenderTree} (settings : PageSettings)
    (filled : tree.js.all Text.isAllBlank = false) :
    (compileScript tree settings).take 4 = [47, 42, 32, 61] := by
  rw [compileScript, if_neg (by rw [filled]; decide), List.cons_append, List.cons_append, take_ofLines]
  · decide
  · decide

theorem take_noScript : noScript.take 4 = [47, 42, 32, 78] := by decide

/-- The placeholder stands in for scripts that are all blank, and for no others. -/
theorem compileScript_eq_noScript_iff {tree : RenderTree} {settings : PageSettings} :
    compileScript tree settings = noScript ↔ tree.js.all Text.isAllBlank = true := by
  constructor
  · intro same
    rw [← Bool.not_eq_false]
    intro filled
    have starts := take_compileScript settings filled
    rw [same, take_noScript] at starts
    cases starts
  · intro blank
    rw [compileScript, if_pos blank]

theorem compileScript_ne_nil (tree : RenderTree) (settings : PageSettings) :
    compileScript tree settings ≠ [] := by
  intro empty
  cases blank : tree.js.all Text.isAllBlank with
  | true =>
    have remark := take_noScript
    rw [← compileScript_eq_noScript_iff.mpr blank, empty] at remark
    cases remark
  | false =>
    have starts := take_compileScript settings blank
    rw [empty] at starts
    cases starts

/-! ### The shell -/

/-- Three files and one document of a page: they agree but for the line of the style, which is linked or
stands in the document, and that of the script, which the document has only if a block has one. -/
structure TwoForms (tree : RenderTree) (files : Output)
    (whole before between script behind : Text) : Prop where
  linked : files.html = Text.concat [before, "  <link rel=\"stylesheet\" href=\"styles.css\">\n",
    between, "  <script defer src=\"script.js\"></script>\n", behind]
  inlined : whole = Text.concat [before, "  <style>", files.css, "</style>\n", between, script, behind]
  /-- The fragments stand between the two lines as they are. -/
  body : ∃ front back, between = Text.concat [front, Text.join "\n\n" tree.html, back]
  script : (tree.js = [] ∧ files.js = noScript ∧ script = []) ∨
    (tree.js ≠ [] ∧ files.js ≠ noScript ∧
      script = Text.concat ["  <script>", files.js, "</script>\n"])

theorem scriptLine_inlined (css : Text) {js : Text} (nonempty : js ≠ []) :
    (Assets.inlined css js).scriptLine = Text.concat ["  <script>", js, "</script>\n"] := by
  cases js with
  | nil => exact absurd rfl nonempty
  | cons first rest => rfl

/-- **One shell.** The files and the document of a page without blank scripts. -/
theorem twoForms_compile (titles : Titles) {tree : RenderTree} (theme : Theme) (settings : PageSettings)
    (spoken : ∀ fragment ∈ tree.js, Text.isAllBlank fragment = false) :
    ∃ script, TwoForms tree (compileOutput titles tree theme settings)
      (compilePreview titles tree theme settings) (documentHead titles theme settings)
      (documentMiddle tree settings) script documentTail := by
  have body : ∃ front back,
      documentMiddle tree settings = Text.concat [front, Text.join "\n\n" tree.html, back] :=
    ⟨Text.concat ["</head>\n<body", navigationOffset settings, ">\n\n"], "\n\n", by
      simp [documentMiddle, documentBody, Text.concat]⟩
  cases scripts : tree.js with
  | nil =>
    refine ⟨[], rfl, ?_, body, .inl ⟨scripts, ?_, rfl⟩⟩
    · simp [compilePreview, document, scripts, Assets.styleLine, Assets.scriptLine, compileOutput,
        Text.concat]
    · exact compileScript_eq_noScript_iff.mpr (by rw [scripts]; rfl)
  | cons first rest =>
    -- one script that is not blank makes all three questions say that there are scripts
    have nonempty : tree.js ≠ [] := by rw [scripts]; exact List.cons_ne_nil first rest
    have filled : tree.js.all Text.isAllBlank = false := by
      rw [List.all_eq_false]
      refine ⟨first, by rw [scripts]; exact List.mem_cons_self, ?_⟩
      rw [spoken first (by rw [scripts]; exact List.mem_cons_self)]
      decide
    refine ⟨_, rfl, ?_, body, .inr ⟨nonempty, ?_, rfl⟩⟩
    · rw [compilePreview, List.isEmpty_eq_false_iff.mpr nonempty, if_neg (by decide), document,
        scriptLine_inlined _ (compileScript_ne_nil tree settings)]
      simp [Assets.styleLine, compileOutput, Text.concat]
    · intro remark
      rw [compileScript_eq_noScript_iff.mp remark] at filled
      cases filled

/-! ### Checked blocks -/

/-- A block that was never checked. -/
def Value.IsLooseBlock : Value → Prop
  | looseBlock .. => True
  | _ => False

/-- The blocks that are handed in ready have been checked, as themes and settings always are. -/
def Value.HoldsChecked (instances : Value) : Prop :=
  ∀ items, instances.items? = some items → ∀ item ∈ items, ¬ item.IsLooseBlock

/-- A block is checked when it is described, or before. -/
theorem checked_of_coerceBlock {item : Value} {placement : Placement} (ready : ¬ item.IsLooseBlock)
    (coerced : Intake.coerceBlock item = .ok placement) : ∃ block, placement = .checked block := by
  cases item with
  | block block => exact ⟨block, (Except.ok.inj coerced).symm⟩
  | looseBlock typeId config instanceId => exact absurd trivial ready
  | map entries =>
    obtain ⟨config, _, coerced⟩ := bind_eq_ok_iff.mp coerced
    obtain ⟨block, _, coerced⟩ := bind_eq_ok_iff.mp coerced
    exact ⟨block, (Except.ok.inj coerced).symm⟩
  | _ => cases coerced

/-- Of checked blocks and described ones, checked blocks are taken. -/
theorem checked_of_snapshot {instances : Value} {placements : List Placement}
    (ready : instances.HoldsChecked) (snapped : Intake.snapshot instances = .ok placements) :
    ∀ placement ∈ placements, ∃ block, placement = .checked block := by
  have coerced : Intake.coerceBlocks instances = .ok placements := by
    unfold Intake.snapshot at snapped
    split at snapped
    · cases snapped
    · cases snapped
    · cases snapped
    · exact mapError_eq_ok_iff.mp snapped
  obtain ⟨items, listed, passed⟩ := bind_eq_ok_iff.mp coerced
  intro placement inside
  obtain ⟨item, member, here⟩ := exists_of_mem_mapM passed inside
  refine checked_of_coerceBlock (ready items ?_ item member) here
  unfold Value.items at listed
  split at listed
  · rename_i found
    exact found.trans (congrArg some (Except.ok.inj listed))
  · cases listed

/-- Checked blocks can be advised on: each has a type. -/
theorem exists_advice (generator : Generator) {placements : List Placement}
    (checked : ∀ placement ∈ placements, ∃ block, placement = .checked block) :
    ∃ warnings, generator.adviseBlocks placements = .ok warnings := by
  have typed : ∀ placement ∈ placements, ∃ typeId, placement.typeId = .ok typeId := by
    intro placement inside
    obtain ⟨block, rfl⟩ := checked placement inside
    exact ⟨_, rfl⟩
  obtain ⟨typeIds, passed⟩ := exists_mapM_eq_ok_iff.mpr typed
  rw [Generator.adviseBlocks, adviseOn, passed]
  exact ⟨_, rfl⟩

/-! ### Both forms of any page -/

section Forms

variable (generator : Generator) (instances theme settings : Value)

/-- What is generated takes the same way as what is previewed, past the advice. -/
theorem generate_eq_ok {generation : Generation}
    (generated : generator.generate instances theme settings = .ok generation) :
    ∃ placements look page tree,
      Generator.pageInput instances theme settings = .ok (placements, look, page) ∧
        generator.resolveBlocks placements = .ok tree ∧
        generation.output = compileOutput generator.settings.titles tree look page := by
  obtain ⟨⟨placements, look, page⟩, input, generated⟩ := bind_eq_ok_iff.mp generated
  obtain ⟨warnings, _, generated⟩ := bind_eq_ok_iff.mp generated
  obtain ⟨tree, resolved, generated⟩ := bind_eq_ok_iff.mp generated
  cases generated
  exact ⟨placements, look, page, tree, input, resolved, rfl⟩

/-- The blocks of a page are those that were handed in. -/
theorem snapshot_of_pageInput {placements : List Placement} {look : Theme} {page : PageSettings}
    (input : Generator.pageInput instances theme settings = .ok (placements, look, page)) :
    Intake.snapshot instances = .ok placements := by
  obtain ⟨taken, snapped, input⟩ := bind_eq_ok_iff.mp input
  obtain ⟨_, _, input⟩ := bind_eq_ok_iff.mp input
  obtain ⟨_, _, input⟩ := bind_eq_ok_iff.mp input
  cases input
  exact snapped

/-- Whatever has files has a document, and both are forms of its resolved page. -/
theorem exists_forms {generation : Generation}
    (generated : generator.generate instances theme settings = .ok generation) :
    ∃ tree whole before between script behind, generator.resolve instances = .ok tree ∧
      generator.preview instances theme settings = .ok whole ∧
      TwoForms tree generation.output whole before between script behind := by
  obtain ⟨placements, look, page, tree, input, resolved, same⟩ :=
    generate_eq_ok generator instances theme settings generated
  obtain ⟨script, forms⟩ := twoForms_compile generator.settings.titles look page
    (script_not_blank resolved)
  have alone : generator.resolve instances = .ok tree := by
    rw [Generator.resolve, snapshot_of_pageInput instances theme settings input]
    exact resolved
  refine ⟨tree, _, _, _, script, _, alone, ?_, same ▸ forms⟩
  rw [Generator.preview, input]
  show (generator.resolveBlocks placements).map _ = _
  rw [resolved]
  rfl

variable {instances} (ready : instances.HoldsChecked)
include ready

/-- What is refused as files is refused as a document for the same reason. -/
theorem preview_eq_error {problem : Problem}
    (refused : generator.generate instances theme settings = .error problem) :
    generator.preview instances theme settings = .error problem := by
  obtain failed | ⟨⟨placements, look, page⟩, input, refused⟩ := bind_eq_error_iff.mp refused
  · rw [Generator.preview, failed]
    rfl
  have snapped := snapshot_of_pageInput instances theme settings input
  obtain ⟨warnings, advised⟩ := exists_advice generator (checked_of_snapshot ready snapped)
  obtain failed | ⟨_, _, refused⟩ := bind_eq_error_iff.mp refused
  · cases advised.symm.trans failed
  obtain failed | ⟨tree, _, passed⟩ := bind_eq_error_iff.mp refused
  · rw [Generator.preview, input]
    show (generator.resolveBlocks placements).map _ = _
    rw [failed]
    rfl
  · cases passed

/-- What has a document has files. -/
theorem exists_generation {whole : Text}
    (previewed : generator.preview instances theme settings = .ok whole) :
    ∃ generation, generator.generate instances theme settings = .ok generation := by
  cases generated : generator.generate instances theme settings with
  | ok generation => exact ⟨generation, rfl⟩
  | error problem =>
    cases previewed.symm.trans (preview_eq_error generator theme settings ready generated)

end Forms

/-- **Files and document are the same page but for the assets.** Whatever is handed in to whatever
generator, it has files just when it has a document. These have one shell around the resolved fragments
and differ in the lines of the style and of the script only. What is refused is refused in both forms for
the same reason. Blocks, themes and settings that are handed in ready have been checked. -/
theorem generate_preview (generator : Generator) {instances : Value} (theme settings : Value)
    (ready : instances.HoldsChecked) :
    (∀ generation, generator.generate instances theme settings = .ok generation →
      ∃ tree whole before between script behind, generator.resolve instances = .ok tree ∧
        generator.preview instances theme settings = .ok whole ∧
        TwoForms tree generation.output whole before between script behind) ∧
    (∀ whole, generator.preview instances theme settings = .ok whole →
      ∃ generation, generator.generate instances theme settings = .ok generation) ∧
    ∀ problem, generator.generate instances theme settings = .error problem ↔
      generator.preview instances theme settings = .error problem := by
  refine ⟨fun _ => exists_forms generator instances theme settings,
    fun _ => exists_generation generator theme settings ready,
    fun problem => ⟨preview_eq_error generator theme settings ready, fun refused => ?_⟩⟩
  cases generated : generator.generate instances theme settings with
  | error other =>
    have same := preview_eq_error generator theme settings ready generated
    rw [Except.error.inj (same.symm.trans refused)]
  | ok generation =>
    obtain ⟨_, _, _, _, _, _, _, previewed, _⟩ :=
      exists_forms generator instances theme settings generated
    cases previewed.symm.trans refused

/-- A navigation bar and a block of a type that is not registered. -/
def handedBlocks : List Block := [{ typeId := "navbar" }, { typeId := "map" }]

/-- They have both forms, and with an integer as the theme they have neither. -/
theorem generate_preview_handed : (Value.list (handedBlocks.map .block)).HoldsChecked ∧
    (∃ generation tree whole before between script behind,
      Generator.generate ⟨Registry.standard, {}⟩ (.list (handedBlocks.map .block)) (.theme {})
          (.pageSettings {} []) = .ok generation ∧
        Generator.preview ⟨Registry.standard, {}⟩ (.list (handedBlocks.map .block)) (.theme {})
          (.pageSettings {} []) = .ok whole ∧
        TwoForms tree generation.output whole before between script behind) ∧
    Generator.preview ⟨Registry.standard, {}⟩ (.list (handedBlocks.map .block)) (.integer 5) .absent =
      .error (Value.notIterable (.integer 5)) := by
  have ready : (Value.list (handedBlocks.map .block)).HoldsChecked := by
    rintro items ⟨⟩ item inside
    obtain ⟨block, _, rfl⟩ := List.mem_map.mp inside
    exact not_false
  have generated := generate_blocks {} handedBlocks {} {} []
  obtain ⟨tree, whole, before, between, script, behind, _, previewed, forms⟩ :=
    (generate_preview ⟨Registry.standard, {}⟩ _ _ ready).1 _ generated
  exact ⟨ready, ⟨_, tree, whole, before, between, script, behind, generated, previewed, forms⟩,
    ((generate_preview ⟨Registry.standard, {}⟩ (.integer 5) .absent ready).2.2 _).mp rfl⟩

end BlockPage
