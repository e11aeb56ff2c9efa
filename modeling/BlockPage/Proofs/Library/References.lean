/-
**What the markup of block types refers to.**

No block type but the list of questions gives an element an identifier or refers to one, whatever it shows.
A list of questions does so twice for each question: its button names the answer below it.

* `leads_quiet_cons`, `leads_forEach`, `leads_value`: markup that is put together.
* `Unlinked`, `viewsUnlinked`: markup that refers to nothing, and the block types whose markup is such.
* `questionReferences`, `leads_questionMarkup`, `leads_faq`: a list of questions.
* `leads_of_mem`: what any drawing refers to.
-/

import BlockPage.Proofs.Library.Attributes
import BlockPage.Proofs.Library.Contents

namespace BlockPage

open CodePoint Library

/-! ### Markup that is put together -/

section Parts

variable {start between stop : Place} {found further : List Attribute} {part : Markup}
  {parts : List Markup}

theorem leads_concat_nil (place : Place) : Leads place (Markup.concat []).render [] place := .nil place

/-- Parts of markup lead one behind the other. -/
theorem leads_concat_cons (here : Leads start part.render found between)
    (behind : Leads between (Markup.concat parts).render further stop) :
    Leads start (Markup.concat (part :: parts)).render (found ++ further) stop := by
  rw [Markup.concat, List.flatten_cons, Markup.render_append]
  exact here.append behind

/-- A part that refers to nothing. -/
theorem leads_quiet_cons (here : Leads start part.render [] between)
    (behind : Leads between (Markup.concat parts).render found stop) :
    Leads start (Markup.concat (part :: parts)).render found stop :=
  leads_concat_cons here behind

theorem leads_literal {written : String} {characters : List Char}
    (same : written = String.ofList characters)
    (leads : Leads start (characters.map Char.toNat) found stop) :
    Leads start (Markup.render [.literal (Text.ofString written)]) found stop := by
  rw [Markup.render, List.flatMap_singleton]
  exact .literal same leads

/-- Markup under a condition may be left out if it refers to nothing. -/
theorem leads_when {place : Place} {condition : Bool} (leads : Leads place part.render [] place) :
    Leads place (Markup.when condition part).render [] place := by
  cases condition
  · exact .nil place
  · exact leads

theorem leads_forEach {α : Type} {place : Place} {items : List α} {markup : α → Markup}
    {refers : α → List Attribute}
    (each : ∀ item ∈ items, Leads place (markup item).render (refers item) place) :
    Leads place (Markup.forEach items markup).render (items.flatMap refers) place := by
  induction items with
  | nil => exact .nil place
  | cons first rest ih =>
    rw [Markup.forEach, List.flatMap_cons, Markup.render_append, List.flatMap_cons]
    exact (each first (.head _)).append (ih fun item inside => each item (.tail _ inside))

/-- What is shown in a value that is no reference. -/
theorem leads_within {element name : Text} (foreign : ¬ isReference name) (text : Text) :
    Leads (.quoted element name quotationMark []) (Markup.shown text).render []
      (.quoted element name quotationMark []) := by
  have leads := Leads.value element name [] text
  rw [Markup.shown, Markup.render, List.flatMap_singleton]
  refine ⟨leads.1, leads.2.trans ?_⟩
  rw [Place.core, Place.core, if_neg foreign, if_neg foreign]

theorem leads_value {opening middle closing : Markup} (element name : Text)
    (before : Leads .content opening.render [] (.quoted element name quotationMark []))
    (within : Leads (.quoted element name quotationMark []) middle.render []
      (.quoted element name quotationMark []))
    (after : Leads (.quoted element name quotationMark []) closing.render [] .content)
    (behind : Leads .content (Markup.concat parts).render found .content) :
    Leads .content (Markup.concat (opening :: middle :: closing :: parts)).render found .content :=
  leads_quiet_cons before (leads_quiet_cons within (leads_quiet_cons after behind))

end Parts

/-! ### Markup that refers to nothing -/

/-- Markup that stands between tags, where it refers to nothing. -/
abbrev Unlinked (markup : Markup) : Prop := Leads .content markup.render [] .content

section Unlinked

variable {part : Markup} {parts : List Markup}

theorem unlinked_nil : Unlinked (Markup.concat []) := leads_concat_nil .content

theorem unlinked_cons (here : Unlinked part) (behind : Unlinked (Markup.concat parts)) :
    Unlinked (Markup.concat (part :: parts)) :=
  leads_quiet_cons here behind

theorem unlinked_shown (text : Text) : Unlinked (Markup.shown text) := by
  rw [Unlinked, Markup.shown, Markup.render, List.flatMap_singleton]
  exact .shown text

/-- Markup for a text refers to nothing if it never does. -/
theorem unlinked_whenText {text : Text} {markup : Text → Markup} (each : ∀ text, Unlinked (markup text)) :
    Unlinked (Markup.whenText text markup) := by
  rw [Markup.whenText]
  split
  · exact .nil .content
  · exact each text

theorem unlinked_forEach {α : Type} {items : List α} {markup : α → Markup}
    (each : ∀ item, Unlinked (markup item)) : Unlinked (Markup.forEach items markup) := by
  have leads : Leads .content (Markup.forEach items markup).render (items.flatMap fun _ => []) .content :=
    leads_forEach fun item _ => each item
  rwa [List.flatMap_eq_nil_iff.mpr fun _ _ => rfl] at leads

theorem unlinked_literal {written : String} {characters : List Char}
    (same : written = String.ofList characters)
    (leads : Leads .content (characters.map Char.toNat) [] .content) :
    Unlinked [.literal (Text.ofString written)] :=
  leads_literal same leads

end Unlinked

namespace Library

/-- A list in a grid, whose class has the number of columns in it. -/
theorem unlinked_grid (columns : Text) {items : Markup} (each : Unlinked items) :
    Unlinked (Markup.concat ["    <div class=\"grid-", .shown columns, "\">\n", items,
      "    </div>\n  </div>\n</section>"]) :=
  leads_value "div" "class" (leads_literal rfl (by decide)) (leads_within (by decide) columns)
    (leads_literal rfl (by decide))
    (unlinked_cons each (unlinked_cons (unlinked_literal rfl (by decide)) unlinked_nil))

theorem unlinked_statMarkup (stat : Stat) : Unlinked (Stats.itemMarkup stat) := by
  refine leads_value "div" "data-target" (leads_literal rfl (by decide))
    (leads_within (by decide) stat.value) (leads_literal rfl (by decide)) ?_
  refine unlinked_cons (unlinked_shown stat.value) (unlinked_cons (unlinked_literal rfl (by decide)) ?_)
  exact unlinked_cons (unlinked_shown stat.label)
    (unlinked_cons (unlinked_literal rfl (by decide)) unlinked_nil)

theorem unlinked_featureMarkup (feature : Text) : Unlinked (Pricing.featureMarkup feature) :=
  unlinked_cons (unlinked_literal rfl (by decide)) (unlinked_cons (unlinked_shown feature)
    (unlinked_cons (unlinked_literal rfl (by decide)) unlinked_nil))

theorem unlinked_planMarkup (plan : Plan) : Unlinked (Pricing.planMarkup plan) := by
  refine leads_value "div" "class" (leads_literal rfl (by decide))
    (leads_when (leads_literal rfl (by decide))) (leads_literal rfl (by decide)) ?_
  refine unlinked_cons (leads_when (leads_literal rfl (by decide))) ?_
  -- the parts up to the class of the link, all between tags
  iterate 8
    refine unlinked_cons (by
      first
        | with_reducible exact unlinked_shown _
        | with_reducible exact unlinked_forEach unlinked_featureMarkup
        | exact unlinked_literal rfl (by decide)) ?_
  exact leads_value "a" "class" (leads_literal rfl (by decide)) (leads_within (by decide) _)
    (leads_literal rfl (by decide)) unlinked_nil

theorem unlinked_headingMarkup (title subtitle : Text) : Unlinked (headingMarkup title subtitle) := by
  refine unlinked_whenText fun title => ?_
  repeat' first
    | with_reducible exact unlinked_nil
    | with_reducible exact unlinked_shown _
    | with_reducible refine unlinked_cons ?_ ?_
    | with_reducible refine unlinked_whenText fun text => ?_
    | exact unlinked_literal rfl (by decide)

/-- Block types other than the list of questions refer to nothing. -/
structure ViewsUnlinked : Prop where
  navbar : ∀ view : Navbar, Unlinked view.markup
  footer : ∀ view : Footer, Unlinked view.markup
  genericSection : ∀ view : GenericSection, Unlinked view.markup
  hero : ∀ view : Hero, Unlinked view.markup
  features : ∀ view : Features, Unlinked view.markup
  pricing : ∀ view : Pricing, Unlinked view.markup
  testimonials : ∀ view : Testimonials, Unlinked view.markup
  callToAction : ∀ view : CallToAction, Unlinked view.markup
  stats : ∀ view : Stats, Unlinked view.markup
  cards : ∀ view : Cards, Unlinked view.markup

/-- All views but the list of questions refer to nothing. -/
theorem viewsUnlinked : ViewsUnlinked := by
  refine ⟨fun view => leads_value "nav" "class" ?_ (leads_when ?_) ?_ ?_, fun view => ?_,
    fun view => leads_value "section" "class" ?_ (leads_when ?_) ?_ ?_, fun view => ?_,
    fun view => unlinked_cons ?_ (unlinked_cons ?_ (unlinked_grid view.columns ?_)), fun view => ?_,
    fun view => ?_, fun view => ?_, fun view => ?_,
    fun view => unlinked_cons ?_ (unlinked_cons ?_ (unlinked_grid view.columns ?_))⟩
  all_goals
    repeat' first
      | with_reducible exact unlinked_nil
      | with_reducible exact unlinked_shown _
      | with_reducible exact unlinked_headingMarkup _ _
      | with_reducible exact unlinked_planMarkup _
      | with_reducible exact unlinked_statMarkup _
      | with_reducible refine unlinked_cons ?_ ?_
      | with_reducible refine unlinked_whenText fun text => ?_
      | with_reducible refine unlinked_forEach fun item => ?_
      | simp only [Navbar.linkMarkup, Navbar.actionMarkup, Footer.linkMarkup, Footer.columnMarkup,
          Features.itemMarkup, Testimonials.itemMarkup, Cards.itemMarkup, titleMarkup,
          Footer.markup, Hero.markup, Pricing.markup, Testimonials.markup, CallToAction.markup, Stats.markup]
      | exact leads_literal rfl (by decide)

/-! ### Questions and answers -/

/-- The identifier of the answer at a place, as it is written. -/
def answerName (index : Nat) : Text := Text.ofString "faq-a-" ++ Number.decimal index

/-- Digits need no references. -/
theorem escape_decimal (index : Nat) : Text.escape (Number.decimal index) = Number.decimal index := by
  have digit : ∀ point, isDigit point = true → Text.escapePoint point = [point] := by
    intro point digit
    rw [Text.escapePoint]
    split_ifs with h h h h h
    iterate 5
      exact absurd digit (by rw [h]; decide)
    rfl
  rw [Text.escape, List.flatMap_congr fun point inside =>
    digit point (Number.isDigit_decimal index point inside)]
  exact List.flatMap_singleton' _

/-- The identifier of an answer is its name. -/
theorem render_answerId (index : Nat) : (Faq.answerId index).render = answerName index := by
  show Text.ofString "faq-a-" ++ (Text.escape (Number.decimal index) ++ []) = answerName index
  rw [escape_decimal, List.append_nil, answerName]

/-- The attributes of a question by which its answer is found: the button names it, and it has that name. -/
def questionReferences (index : Nat) : List Attribute :=
  [⟨"button", "aria-controls", answerName index⟩, ⟨"div", "id", answerName index⟩]

/-- A reference ends where its value does. -/
theorem leads_reference {element name value : Text} {stop : Place} {written : String}
    {characters : List Char} (reference : isReference name)
    (same : written = String.ofList (Char.ofNat quotationMark :: characters))
    (leads : Leads (.inside element) (characters.map Char.toNat) [] stop) :
    Leads (.quoted element name quotationMark value) (Markup.render [.literal (Text.ofString written)])
      [⟨element, name, value⟩] stop := by
  have closed : Leads (.quoted element name quotationMark value) [quotationMark] [⟨element, name, value⟩]
      (.inside element) := by
    rw [Leads, Place.scan, Place.step, if_pos rfl]
    exact ⟨List.filter_cons_of_pos reference, rfl⟩
  rw [Markup.render, List.flatMap_singleton, Piece.render, same, Text.ofString_ofList]
  exact closed.append leads

/-- In a value, the name of an answer is what is added. -/
theorem leads_answerId (element name : Text) (index : Nat) :
    Leads (.quoted element name quotationMark []) (Faq.answerId index).render []
      (.quoted element name quotationMark (answerName index)) := by
  have unquoted : quotationMark ∉ answerName index := by
    rw [answerName, List.mem_append, not_or]
    refine ⟨by decide, fun inside => ?_⟩
    exact absurd (Number.isDigit_decimal index _ inside) (by decide)
  rw [render_answerId, Leads, Place.scan_quoted unquoted]
  exact ⟨rfl, rfl⟩

/-- An attribute that holds the identifier of an answer. -/
theorem leads_answer {opening closing : Markup} {parts : List Markup} {found : List Attribute}
    (element name : Text) (index : Nat)
    (before : Leads .content opening.render [] (.quoted element name quotationMark []))
    (after : Leads (.quoted element name quotationMark (answerName index)) closing.render
      [⟨element, name, answerName index⟩] .content)
    (behind : Leads .content (Markup.concat parts).render found .content) :
    Leads .content (Markup.concat (opening :: Faq.answerId index :: closing :: parts)).render
      (⟨element, name, answerName index⟩ :: found) .content :=
  leads_quiet_cons before (leads_quiet_cons (leads_answerId element name index)
    (leads_concat_cons after behind))

/-- A question has these references, whatever it says. -/
theorem leads_questionMarkup (question : Question) (index : Nat) :
    Leads .content (Faq.itemMarkup (question, index)).render (questionReferences index) .content := by
  refine leads_quiet_cons (unlinked_literal rfl (by decide)) ?_
  refine leads_answer "button" "aria-controls" index (leads_literal rfl (by decide))
    (leads_reference (by decide) rfl (by decide)) ?_
  refine leads_quiet_cons (unlinked_shown question.question) ?_
  refine leads_quiet_cons (unlinked_literal rfl (by decide)) ?_
  refine leads_quiet_cons (unlinked_literal rfl (by decide)) ?_
  refine leads_answer "div" "id" index (leads_literal rfl (by decide))
    (leads_reference (by decide) rfl (by decide)) ?_
  refine unlinked_cons (unlinked_shown question.answer) ?_
  exact unlinked_cons (unlinked_literal rfl (by decide)) unlinked_nil

/-- **A list of questions** refers to its answers, and names them. -/
theorem leads_faq (view : Faq) : Leads .content view.markup.render
    ((List.range view.items.length).flatMap questionReferences) .content := by
  refine leads_quiet_cons (unlinked_literal rfl (by decide)) ?_
  refine leads_quiet_cons (unlinked_headingMarkup view.title []) ?_
  refine leads_quiet_cons (unlinked_literal rfl (by decide)) ?_
  have items : Leads .content (Markup.forEach view.items.zipIdx Faq.itemMarkup).render
      (view.items.zipIdx.flatMap fun item => questionReferences item.2) .content :=
    leads_forEach fun item _ => leads_questionMarkup item.1 item.2
  have places : view.items.zipIdx.flatMap (fun item => questionReferences item.2) =
      (List.range view.items.length).flatMap questionReferences := by
    rw [List.range_eq_range', ← List.zipIdx_map_snd, List.flatMap_map]
  rw [places] at items
  have closed : Unlinked (Markup.concat ["    </div>\n  </div>\n</section>"]) :=
    unlinked_cons (unlinked_literal rfl (by decide)) unlinked_nil
  have both := leads_concat_cons items closed
  rwa [List.append_nil] at both

/-! ### Any drawing -/

/-- The questions that a list with these entries asks. There are none if the list cannot be read. -/
def questions (entries : Entries) : List Question :=
  match Faq.read entries with
  | .ok view => view.items
  | .error _ => []

/-- What a drawing of some entries refers to. -/
def Drawing.references (drawing : Drawing) (entries : Entries) : List Attribute :=
  if drawing.definition.typeId = faq.typeId then
    (List.range (questions entries).length).flatMap questionReferences
  else []

theorem leads_ofView {definition : Definition} {uses : List (Text × Use)} {View : Type}
    {read : Entries → Except Problem View} {markup : View → Markup} {full : View}
    (other : definition.typeId ≠ faq.typeId) (unlinked : ∀ view, Unlinked (markup view)) :
    ∀ entries drawn, (Drawing.ofView definition uses read markup full).draw entries = .ok drawn →
      Leads .content drawn.render ((Drawing.ofView definition uses read markup full).references entries)
        .content := by
  intro entries drawn same
  obtain ⟨view, _, rfl⟩ := exists_of_map_eq_ok same
  have unreferred : (Drawing.ofView definition uses read markup full).references entries = [] := if_neg other
  rw [unreferred]
  exact unlinked view

/-- **Every drawing** refers to its references, and leaves the page where it was. -/
theorem leads_of_mem : ∀ drawing ∈ drawings, ∀ entries drawn, drawing.draw entries = .ok drawn →
    Leads .content drawn.render (drawing.references entries) .content := by
  have unlinked := viewsUnlinked
  simp only [drawings, List.forall_mem_cons]
  refine ⟨leads_ofView (by decide) unlinked.navbar, leads_ofView (by decide) unlinked.footer,
    leads_ofView (by decide) unlinked.genericSection, leads_ofView (by decide) unlinked.hero,
    leads_ofView (by decide) unlinked.features, leads_ofView (by decide) unlinked.pricing, ?faq,
    leads_ofView (by decide) unlinked.testimonials, leads_ofView (by decide) unlinked.callToAction,
    leads_ofView (by decide) unlinked.stats, leads_ofView (by decide) unlinked.cards,
    List.forall_mem_nil _⟩
  intro entries drawn same
  obtain ⟨view, read, rfl⟩ := exists_of_map_eq_ok same
  have asked : (Drawing.ofView faq Faq.uses Faq.read Faq.markup .full).references entries =
      (List.range view.items.length).flatMap questionReferences := by
    refine (if_pos rfl).trans ?_
    rw [questions, read]
  rw [asked]
  exact leads_faq view

end Library

end BlockPage
