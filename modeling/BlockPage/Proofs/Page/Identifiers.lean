/-
**The identifiers of a page.**

The only identifiers of a page are those of answers, and they count the questions of one list. So a page has
no identifier twice as long as at most one of its blocks asks questions, and then the button of a question
names its own answer and nothing else. Where a second block asks as well, its buttons name the answers of
the first.

* `identifiers`, `controls`: the elements of a document that can be found and those that are referred to;
  `IsLinked`: each reference finds one element.
* `Block.questions`, `references_pictures`: what a block refers to.
* `leads_join`, `leads_documentMarkup`: what a document refers to.
* `generate_linked`: all this for every page of checked blocks, and when it is linked.
-/

import BlockPage.Proofs.Library.References
import BlockPage.Proofs.Page.Escaping
import Mathlib.Data.List.Count

namespace BlockPage

open CodePoint Library

/-! ### Linked documents -/

/-- The values of an attribute in a document, whichever element has it. -/
def valuesOf (name document : Text) : List Text :=
  ((attributes document).filter (·.name = name)).map Attribute.value

/-- The identifiers of the elements of a document. -/
def identifiers (document : Text) : List Text := valuesOf "id" document

/-- The identifiers that the elements of a document name as what they control. -/
def controls (document : Text) : List Text := valuesOf "aria-controls" document

/-- No two elements of a document have the same identifier, and what an element names as controlled is one
element. -/
structure IsLinked (document : Text) : Prop where
  unique : (identifiers document).Nodup
  named : ∀ name ∈ controls document, (identifiers document).count name = 1

/-- The values of references are found among the references alone. -/
theorem valuesOf_references {name : Text} (reference : isReference name) (document : Text) :
    valuesOf name document = ((references document).filter (·.name = name)).map Attribute.value := by
  rw [valuesOf, references, List.filter_filter]
  congr 1
  refine List.filter_congr fun found _ => ?_
  by_cases same : found.name = name <;> simp [Attribute.refers, same, reference]

/-! ### Blocks -/

/-- The questions that a block asks. -/
def Block.questions (block : Block) : List Question :=
  if block.typeId = faq.typeId then
    Library.questions (effective Faq.defaults (.ofConfig block.config))
  else []

/-- The identifiers of the answers of a block. -/
def Block.answers (block : Block) : List Text := (List.range block.questions.length).map answerName

/-- What a block refers to. -/
def Block.references (block : Block) : List Attribute :=
  (List.range block.questions.length).flatMap questionReferences

section Blocks

variable {block : Block} {drawing : Drawing}

/-- The references of a drawing are those of the questions of the block. -/
theorem references_drawing (found : drawingOf? block.typeId = some drawing) :
    drawing.references (block.drawn drawing) = block.references := by
  have typeId : drawing.definition.typeId = block.typeId := by simpa using List.find?_some found
  rw [Drawing.references, Block.references, Block.questions, typeId]
  by_cases asks : block.typeId = faq.typeId
  · rw [if_pos asks, if_pos asks]
    rw [asks] at found
    cases found
    rfl
  · rw [if_neg asks, if_neg asks]
    rfl

/-- A block without markup asks no questions. -/
theorem references_of_unseen (unseen : pictures block = []) : block.references = [] := by
  have unasked : block.questions = [] := by
    rw [Block.questions]
    split
    · rename_i asks
      let list : Drawing := .ofView faq Faq.uses Faq.read Faq.markup .full
      have found : drawingOf? block.typeId = some list := by
        rw [asks]
        rfl
      rw [Library.questions]
      cases read : Faq.read (effective Faq.defaults (.ofConfig block.config)) with
      | error problem => rfl
      | ok view =>
        -- then there is markup
        have drawn : list.draw (block.drawn list) = .ok view.markup := congrArg (Except.map Faq.markup) read
        simp only [pictures, found, drawn] at unseen
        cases unseen
    · rfl
  rw [Block.references, unasked]
  rfl

/-- The markup of a block refers to its answers. -/
theorem leads_picture {markup : Markup} (inside : markup ∈ pictures block) :
    Leads .content markup.render block.references .content := by
  rcases pictures_cases block with unseen | ⟨drawing, drawn, found, same, seen⟩
  · rw [unseen] at inside
    cases inside
  · rw [seen] at inside
    rw [List.mem_singleton.mp inside]
    have leads := leads_of_mem drawing (List.mem_of_find?_eq_some found) _ _ same
    -- only the line break in front of the element is missing
    obtain ⟨_, _, written⟩ := Markup.render_trimmed ((isSound_of_drawingOf? found).element _ _ same)
    rwa [references_drawing found, written] at leads

theorem references_pictures (block : Block) :
    (pictures block).flatMap (fun markup => references markup.render) = block.references := by
  rcases pictures_cases block with unseen | ⟨drawing, drawn, found, same, seen⟩
  · rw [unseen, references_of_unseen unseen]
    rfl
  · have leads := leads_picture (seen ▸ List.mem_singleton_self drawn.trimmed)
    rw [seen, List.flatMap_singleton, leads.references]

end Blocks

/-! ### Documents -/

/-- What some fragments refer to, one after the other between separators. -/
theorem leads_join {separator : Text} {parts : List Markup} {refers : Markup → List Attribute}
    (between : Leads .content separator [] .content)
    (each : ∀ part ∈ parts, Leads .content part.render (refers part) .content) :
    Leads .content (Text.join separator (parts.map Markup.render)) (parts.flatMap refers) .content := by
  induction parts with
  | nil => exact .nil .content
  | cons first rest ih =>
    have here := each first (.head _)
    have behind := ih fun part inside => each part (.tail _ inside)
    rw [List.map_cons, List.flatMap_cons]
    by_cases last : rest = []
    · simpa [last, Text.join] using here
    · rw [Text.join_cons separator first.render (by simpa using last)]
      exact here.append (between.append behind)

/-- The pictures of a page, joined, have the references of the blocks, in order. -/
theorem leads_body (blocks : List Block) :
    Leads .content (Markup.render (([.literal "\n\n"] : Markup).intercalate (blocks.flatMap pictures)))
      (blocks.flatMap Block.references) .content := by
  have each : ∀ markup ∈ blocks.flatMap pictures,
      Leads .content markup.render (references markup.render) .content := by
    intro markup inside
    obtain ⟨block, _, listed⟩ := List.mem_flatMap.mp inside
    exact ⟨rfl, (leads_picture listed).2⟩
  have between : Leads .content (Text.ofString "\n\n") [] .content := .literal rfl (by decide)
  have joined := leads_join between each
  rw [List.flatMap_assoc, List.flatMap_congr fun block _ => references_pictures block] at joined
  rw [Markup.render_intercalate]
  exact joined

/-- The tag of the body, with or without room for the navigation. -/
theorem leads_bodyTag {condition : Bool} {parts : List Markup} {found : List Attribute}
    (behind : Leads .content (Markup.concat parts).render found .content) :
    Leads .content (Markup.concat ("</head>\n<body" ::
      Markup.when condition " style=\"padding-top: 64px;\"" :: ">\n\n" :: parts)).render found .content := by
  have before : Leads .content (Markup.render "</head>\n<body") [] (.tag "body") :=
    leads_literal rfl (by decide)
  refine leads_quiet_cons before ?_
  cases condition with
  | false =>
    refine leads_quiet_cons (leads_concat_nil (.tag "body")) ?_
    exact leads_quiet_cons (leads_literal rfl (by decide)) behind
  | true =>
    have within : Leads (.tag "body") (Markup.render " style=\"padding-top: 64px;\"") []
        (.inside "body") := leads_literal rfl (by decide)
    exact leads_quiet_cons within (leads_quiet_cons (leads_literal rfl (by decide)) behind)

/-- The shell refers to nothing, whatever its titles say. -/
theorem leads_documentMarkup (titles : Titles) (theme : Theme) (page : PageSettings) {body : List Markup}
    {found : List Attribute}
    (inner : Leads .content (Markup.render (([.literal "\n\n"] : Markup).intercalate body)) found .content) :
    Leads .content (documentMarkup titles theme page body).render found .content := by
  have closed : Unlinked (Markup.concat
      ["\n\n", "  <script defer src=\"script.js\"></script>\n", "</body>\n</html>"]) :=
    unlinked_cons (unlinked_literal rfl (by decide)) (unlinked_cons (unlinked_literal rfl (by decide))
      (unlinked_cons (unlinked_literal rfl (by decide)) unlinked_nil))
  have tail := leads_concat_cons inner closed
  rw [List.append_nil] at tail
  refine leads_value "html" "data-theme" (leads_literal rfl (by decide)) (leads_within (by decide) _)
    (leads_literal rfl (by decide)) ?_
  refine leads_quiet_cons (unlinked_literal rfl (by decide)) ?_
  refine leads_value "meta" "content" (leads_literal rfl (by decide)) (leads_within (by decide) _)
    (leads_literal rfl (by decide)) ?_
  refine leads_quiet_cons (unlinked_shown _) (leads_quiet_cons (unlinked_literal rfl (by decide)) ?_)
  refine leads_quiet_cons (unlinked_literal rfl (by decide)) ?_
  exact leads_bodyTag tail

/-- **The references of a page are those of its blocks, in order**: the frame of the page has none. -/
theorem references_page (titles : Titles) (theme : Theme) (page : PageSettings) (blocks : List Block) :
    references (pageMarkup titles theme page blocks).render = blocks.flatMap Block.references :=
  (leads_documentMarkup titles theme page (leads_body blocks)).references

/-! ### Answers -/

/-- Different questions of a block have different names. -/
theorem answerName_injective : Function.Injective answerName := by
  intro first second same
  have digits : Number.decimal first = Number.decimal second := List.append_cancel_left same
  rw [← Number.ofDigits_decimal first, digits, Number.ofDigits_decimal]

/-- A list of questions has one answer at each of its places. -/
theorem count_answers (block : Block) (index : Nat) :
    block.answers.count (answerName index) = if index < block.questions.length then 1 else 0 := by
  rw [Block.answers, List.count_map_of_injective _ _ answerName_injective, List.nodup_range.count]
  simp only [List.mem_range]

/-- As many answers have one identifier as lists have a question at its place. -/
theorem count_flatMap_answers (blocks : List Block) (index : Nat) :
    (blocks.flatMap Block.answers).count (answerName index) =
      blocks.countP fun block => index < block.questions.length := by
  induction blocks with
  | nil => rfl
  | cons first rest ih =>
    rw [List.flatMap_cons, List.count_append, count_answers, ih, List.countP_cons, Nat.add_comm]
    simp only [decide_eq_true_eq]

/-- The answers of a page have different identifiers as long as no second block asks. -/
theorem nodup_answers_iff (blocks : List Block) : (blocks.flatMap Block.answers).Nodup ↔
    (blocks.countP fun block => 0 < block.questions.length) ≤ 1 := by
  rw [List.nodup_iff_count_le_one]
  constructor
  · intro once
    rw [← count_flatMap_answers]
    exact once (answerName 0)
  · intro few name
    by_cases listed : name ∈ blocks.flatMap Block.answers
    · obtain ⟨block, _, inside⟩ := List.mem_flatMap.mp listed
      obtain ⟨index, _, rfl⟩ := List.mem_map.mp inside
      rw [count_flatMap_answers]
      refine Nat.le_trans (List.countP_mono_left fun block _ longer => ?_) few
      rw [decide_eq_true_eq] at longer ⊢
      exact Nat.zero_lt_of_lt longer
    · rw [List.count_eq_zero_of_not_mem listed]
      exact Nat.zero_le 1

/-- What the references of a page say under a name that each question has once. -/
theorem valuesOf_page {name : Text} (reference : isReference name)
    (each : ∀ index, ((questionReferences index).filter (·.name = name)).map Attribute.value =
      [answerName index])
    (titles : Titles) (theme : Theme) (page : PageSettings) (blocks : List Block) :
    valuesOf name (pageMarkup titles theme page blocks).render = blocks.flatMap Block.answers := by
  rw [valuesOf_references reference, references_page, List.filter_flatMap, List.map_flatMap]
  refine List.flatMap_congr fun block _ => ?_
  rw [Block.references, List.filter_flatMap, List.map_flatMap, List.flatMap_congr fun index _ => each index,
    Block.answers, List.map_eq_flatMap]

section Pages

variable (settings : Settings) (theme : Theme) (page : PageSettings) (blocks : List Block)

/-- The identifiers of a page are the names of its answers. -/
theorem identifiers_page : identifiers (pageMarkup settings.titles theme page blocks).render =
    blocks.flatMap Block.answers :=
  valuesOf_page (by decide) (fun _ => rfl) settings.titles theme page blocks

theorem controls_page : controls (pageMarkup settings.titles theme page blocks).render =
    blocks.flatMap Block.answers :=
  valuesOf_page (by decide) (fun _ => rfl) settings.titles theme page blocks

/-- **A page is linked when at most one of its blocks asks questions**, since names start again with every
block. -/
theorem isLinked_page_iff : IsLinked (pageMarkup settings.titles theme page blocks).render ↔
    (blocks.countP fun block => 0 < block.questions.length) ≤ 1 := by
  rw [← nodup_answers_iff, ← identifiers_page settings theme page]
  refine ⟨IsLinked.unique, fun unique => ⟨unique, fun name named => ?_⟩⟩
  rw [controls_page, ← identifiers_page settings theme page] at named
  exact List.count_eq_one_of_mem unique named

/-- **Which elements of a page can be found.** Every page of checked blocks is generated. It refers to the
answers of its blocks alone, one block after the other: the button of each question names the answer that
belongs to the question, and the answer has that name. An identifier occurs once for every block that has a
question at its place. So no identifier occurs twice, and every button names one element, if and only if no
more than one block asks questions. -/
theorem generate_linked (extras : List (Text × Value)) :
    ∃ generation, Generator.generate ⟨Registry.standard, settings⟩ (.list (blocks.map .block))
        (.theme theme) (.pageSettings page extras) = .ok generation ∧
      references generation.output.html = (blocks.flatMap fun block =>
        block.questions.zipIdx.flatMap fun item => references (Faq.itemMarkup item).render) ∧
      (∀ question index, references (Faq.itemMarkup (question, index)).render =
        [⟨"button", "aria-controls", answerName index⟩, ⟨"div", "id", answerName index⟩]) ∧
      (∀ index, (identifiers generation.output.html).count (answerName index) =
        blocks.countP fun block => index < block.questions.length) ∧
      (IsLinked generation.output.html ↔
        (blocks.countP fun block => 0 < block.questions.length) ≤ 1) := by
  obtain ⟨generation, generated, html⟩ := generate_pageMarkup settings theme page extras blocks
  have each : ∀ item, references (Faq.itemMarkup item).render = questionReferences item.2 :=
    fun item => (leads_questionMarkup item.1 item.2).references
  refine ⟨generation, generated, ?_, fun question index => each (question, index), fun index => ?_, ?_⟩
  · rw [html, references_page]
    refine List.flatMap_congr fun block _ => ?_
    rw [Block.references, List.range_eq_range', ← List.zipIdx_map_snd, List.flatMap_map]
    exact List.flatMap_congr fun item _ => (each item).symm
  · rw [html, identifiers_page, count_flatMap_answers]
  · rw [html, isLinked_page_iff]

end Pages

/-- A list with one question. -/
def oneQuestion : Block :=
  { typeId := "faq", config := .ofList [("title", .text []), ("items", .text "Q|A")] }

/-- Two lists name their first answers alike. -/
theorem not_isLinked_twice :
    ∃ generation, Generator.generate ⟨Registry.standard, {}⟩ (.list ([oneQuestion, oneQuestion].map .block))
        (.theme {}) (.pageSettings {} []) = .ok generation ∧
      ¬ IsLinked generation.output.html := by
  obtain ⟨generation, generated, html⟩ := generate_pageMarkup {} {} {} [] [oneQuestion, oneQuestion]
  have asks : oneQuestion.questions.length = 1 := by decide +kernel
  refine ⟨generation, generated, ?_⟩
  rw [html, isLinked_page_iff, List.countP_cons, List.countP_cons, List.countP_nil, asks]
  decide

end BlockPage
