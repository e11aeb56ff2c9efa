/-
**Block types that list records.**

Five block types show one item for each record of their items, in order. What an item begins with stands
nowhere else: no literal around the items has it, and no text that is shown does, since texts are escaped.

* `Listing`: such a block type, with the beginning of its items, what stands in for their fields, and what
  they show; `Listing.all`: the five.
* `Bare`, `bare_cons`: markup without the beginning of an item.
* `Listing.Lists`: what is to be known of a listing, one `lists` for each; `exists_items`: the items of the
  records that are read.
* `html_listing`: what the markup of a listing has in it, for every configuration.
-/

import BlockPage.Proofs.Library.Contents
import BlockPage.Proofs.Library.Records
import BlockPage.Proofs.Text.Occurrences

namespace BlockPage.Library

open Text

/-! ### Markup without items -/

/-- The text that a piece shows. -/
def Piece.shown? : Piece → Option Text
  | literal _ => none
  | shown text => some text

/-- The texts that markup shows, in order. -/
def Markup.texts (markup : Markup) : List Text := markup.filterMap Piece.shown?

/-- No occurrence of a text begins in markup. -/
def Bare (marker : Text) (markup : Markup) : Prop := isFree marker markup.render = true

section Bare

variable {marker : Text}

theorem bare_nil : Bare marker (Markup.concat []) := rfl

theorem bare_cons {part : Markup} {parts : List Markup} (here : Bare marker part)
    (behind : Bare marker (Markup.concat parts)) : Bare marker (Markup.concat (part :: parts)) := by
  rw [Bare, Markup.concat, List.flatten_cons, Markup.render_append]
  exact isFree_append here behind

theorem bare_literal {written : String} {characters : List Char}
    (same : written = String.ofList characters)
    (free : isFree marker (characters.map Char.toNat) = true) :
    Bare marker [.literal (Text.ofString written)] := by
  rw [Bare, Markup.render, List.flatMap_singleton]
  exact isFree_ofString same free

theorem bare_shown (tag : marker.head? = some CodePoint.lessThan) (text : Text) :
    Bare marker (Markup.shown text) := by
  obtain ⟨further, rfl⟩ := List.head?_eq_some_iff.mp tag
  rw [Bare, Markup.shown, Markup.render, List.flatMap_singleton]
  exact isFree_of_not_mem (mark_not_mem_escape (by decide) text)

theorem bare_whenText {text : Text} {markup : Text → Markup} (each : ∀ text, Bare marker (markup text)) :
    Bare marker (Markup.whenText text markup) := by
  rw [Markup.whenText]
  split
  · rfl
  · exact each text

/-- Some markup stands in other markup, around which no occurrence of a text begins. -/
def Around (marker : Text) (inner markup : Markup) : Prop :=
  ∃ front behind, markup.render = front ++ (inner.render ++ behind) ∧
    isFree marker front = true ∧ isFree marker behind = true

/-- Items stand around nothing else if the rest opens none. -/
theorem around_here {inner : Markup} {parts : List Markup} (behind : Bare marker (Markup.concat parts)) :
    Around marker inner (Markup.concat (inner :: parts)) := by
  refine ⟨[], (Markup.concat parts).render, ?_, rfl, behind⟩
  rw [Markup.concat, List.flatten_cons, Markup.render_append]
  rfl

/-- What opens no item may stand before those that do. -/
theorem around_cons {inner part : Markup} {parts : List Markup} (here : Bare marker part)
    (around : Around marker inner (Markup.concat parts)) :
    Around marker inner (Markup.concat (part :: parts)) := by
  obtain ⟨front, behind, whole, free, free'⟩ := around
  refine ⟨part.render ++ front, behind, ?_, isFree_append here free, free'⟩
  rw [Markup.concat, List.flatten_cons, Markup.render_append, List.append_assoc, ← whole]
  rfl

end Bare

/-! ### Listings -/

/-- A block type that lists records. -/
structure Listing where
  definition : Definition
  /-- What the element of an item begins with. -/
  opening : Text
  /-- What stands in for each field of a record where it is missing or empty. -/
  fallbacks : List Text
  /-- The item of a record, by its place and its fields. -/
  item : Nat → List Text → Markup
  /-- The texts that the item shows. -/
  shown : Nat → List Text → List Text

namespace Listing

/-- Features, each with the icon of its place. -/
def ofFeatures : Listing where
  definition := features
  opening := "<div class=\"cs-feature-card\">"
  fallbacks := [[], []]
  item place fields := Features.itemMarkup ⟨Features.icon place, field fields 0, field fields 1⟩
  shown place fields := [Features.icon place, field fields 0, field fields 1]

/-- Questions, whose answers are numbered. -/
def ofFaq : Listing where
  definition := faq
  opening := "<div class=\"cs-faq__item\">"
  fallbacks := ["Question", "Answer goes here."]
  item place fields := Faq.itemMarkup (⟨field fields 0, field fields 1⟩, place)
  shown place fields :=
    [Number.decimal place, field fields 0, Number.decimal place, field fields 1]

/-- Testimonials with their stars, the initial of a name standing apart. -/
def ofTestimonials : Listing where
  definition := testimonials
  opening := "<div class=\"cs-testimonial\">"
  fallbacks := [[], [], [], "⭐⭐⭐⭐⭐"]
  item _ fields :=
    Testimonials.itemMarkup ⟨field fields 0, field fields 1, field fields 2, field fields 3⟩
  shown _ fields := [field fields 3, field fields 2, (orElse (field fields 0) "U").take 1,
    field fields 0, field fields 1]

/-- Numbers, which are also the targets that they count up to. -/
def ofStats : Listing where
  definition := stats
  opening := "<div class=\"cs-stat\">"
  fallbacks := [[], []]
  item _ fields := Stats.itemMarkup ⟨field fields 0, field fields 1⟩
  shown _ fields := [field fields 0, field fields 0, field fields 1]

/-- Cards. -/
def ofCards : Listing where
  definition := cards
  opening := "<div class=\"cs-card\">"
  fallbacks := ["Card Title", "Card description goes here."]
  item _ fields := Cards.itemMarkup ⟨field fields 0, field fields 1⟩
  shown _ fields := [field fields 0, field fields 1]

/-- The block types that list records. -/
def all : List Listing := [ofFeatures, ofFaq, ofTestimonials, ofStats, ofCards]

/-- The items of some parts in order. -/
def items (listing : Listing) (parts : List Text) : List Markup :=
  parts.mapIdx fun place part => listing.item place (completed listing.fallbacks part)

/-- An item is one element: what it begins with is not in it once more. -/
def Opens (listing : Listing) (markup : Markup) : Prop :=
  ∃ inner, markup.render = Text.ofString "      " ++ (listing.opening ++ inner) ∧
    isFree listing.opening inner = true

/-- A listing that is drawn from a view shows the items of the records, with nothing like them around. -/
structure Lists (listing : Listing) {uses : List (Text × Use)} {texts : List Text} {View : Type}
    {read : Entries → Except Problem View} {markup : View → Markup}
    (draws : Draws listing.definition uses texts read markup) (inner : View → Markup) : Prop where
  around : ∀ view, Around listing.opening (inner view) (markup view)
  records : ∀ entries view, read entries = .ok view → ∃ text,
    (Entries.value entries "items").shown [] = .ok text ∧
      inner view = (listing.items (parts text)).flatten

/-- The markup of a configuration is written around the items of its records. -/
theorem Lists.produces {listing : Listing} {uses : List (Text × Use)} {texts : List Text} {View : Type}
    {read : Entries → Except Problem View} {markup inner : View → Markup}
    {draws : Draws listing.definition uses texts read markup} (lists : listing.Lists draws inner)
    {config : Config} (short : ∀ entry ∈ config.entries, IsShort entry.2) :
    ∃ text written, (Entries.value (effective listing.definition.defaults (.ofConfig config)) "items").shown
        [] = .ok text ∧
      listing.definition.html (.ofConfig config) = .produced (.text (Markup.render written)) ∧
      Around listing.opening (listing.items (parts text)).flatten written := by
  obtain ⟨view, read⟩ := draws.reads _ (readable_effective draws.defaults short)
  obtain ⟨text, shown, same⟩ := lists.records _ view read
  refine ⟨text, markup view, shown, ?_, same ▸ lists.around view⟩
  rw [draws.html, viewTemplate, read]
  rfl

/-- Items that are written for records at their places are those of the parts that are read. -/
theorem exists_items (listing : Listing) {value : Value} {fields : Int} {records : List (List Text)}
    (found : splitRecords value fields = .ok records) {markup : List Text × Nat → Markup}
    (each : ∀ part place, markup (splitRecord fields (Text.strip part), place) =
      listing.item place (completed listing.fallbacks part)) :
    ∃ text, value.shown [] = .ok text ∧
      records.zipIdx.flatMap markup = (listing.items (parts text)).flatten := by
  obtain ⟨text, shown, rfl⟩ := splitRecords_eq_ok_iff.mp found
  refine ⟨text, shown, ?_⟩
  rw [items, List.mapIdx_eq_zipIdx_map, List.zipIdx_map, List.flatMap_map, List.flatMap_def]
  congr 1
  refine List.map_congr_left fun item _ => ?_
  exact each item.1 item.2

/-- The same of items that do not depend on their places. -/
theorem exists_items_anywhere (listing : Listing) {value : Value} {fields : Int}
    {records : List (List Text)} (found : splitRecords value fields = .ok records)
    {markup : List Text → Markup} (each : ∀ part place, markup (splitRecord fields (Text.strip part)) =
      listing.item place (completed listing.fallbacks part)) :
    ∃ text, value.shown [] = .ok text ∧ records.flatMap markup = (listing.items (parts text)).flatten := by
  obtain ⟨text, shown, placed⟩ : ∃ text, value.shown [] = .ok text ∧
      records.zipIdx.flatMap (fun item => markup item.1) = (listing.items (parts text)).flatten :=
    exists_items listing found each
  refine ⟨text, shown, ?_⟩
  rwa [← List.flatMap_map, List.zipIdx_map_fst] at placed

/-! ### The five listings -/

/-- An item whose first literal begins it. -/
theorem opens_concat {listing : Listing} {parts : List Markup} {written : String} (head : String)
    (same : Text.ofString written = Text.ofString "      " ++ (listing.opening ++ Text.ofString head))
    (free : Bare listing.opening (Markup.concat ([.literal (Text.ofString head)] :: parts))) :
    listing.Opens (Markup.concat ([.literal (Text.ofString written)] :: parts)) := by
  refine ⟨(Markup.concat ([.literal (Text.ofString head)] :: parts)).render, ?_, free⟩
  rw [Markup.concat, Markup.concat, List.flatten_cons, List.flatten_cons, Markup.render_append,
    Markup.render_append]
  simp only [Markup.render, List.flatMap_singleton, Piece.render, same, List.append_assoc]

/-- Every item is opened by a tag. -/
theorem tag_of_mem : ∀ listing ∈ all, listing.opening.head? = some CodePoint.lessThan := by
  simp only [all, List.forall_mem_cons]
  exact ⟨rfl, rfl, rfl, rfl, rfl, List.forall_mem_nil _⟩

/-- Every item opens with its own opening, and opens no other item. -/
theorem opens_item : ∀ listing ∈ all, ∀ place fields, listing.Opens (listing.item place fields) := by
  have tags := tag_of_mem
  simp only [all, List.forall_mem_cons] at tags ⊢
  obtain ⟨features, faq, testimonials, stats, cards, -⟩ := tags
  refine ⟨fun place fields => opens_concat "\n" (ofString_three rfl rfl rfl rfl) ?_,
    fun place fields => opens_concat "\n" (ofString_three rfl rfl rfl rfl) ?_,
    fun place fields => opens_concat "\n" (ofString_three rfl rfl rfl rfl) ?_,
    fun place fields => opens_concat "<div class=\"cs-stat__val\" data-target=\""
      (ofString_three rfl rfl rfl rfl) ?_,
    fun place fields => opens_concat "\n        <div class=\"cs-card__header\"></div>\n"
      (ofString_three rfl rfl rfl rfl) ?_,
    List.forall_mem_nil _⟩
  all_goals
    repeat' first
      | with_reducible exact bare_nil
      | with_reducible exact bare_shown ‹_› _
      | with_reducible refine bare_cons ?_ ?_
      | simp only [Faq.answerId]
      | exact bare_literal rfl (by decide)

/-- The markup of the listings has no items but those of the view. -/
structure ViewsAround : Prop where
  features : ∀ view : Features,
    Around ofFeatures.opening (.forEach view.items Features.itemMarkup) view.markup
  faq : ∀ view : Faq, Around ofFaq.opening (.forEach view.items.zipIdx Faq.itemMarkup) view.markup
  testimonials : ∀ view : Testimonials,
    Around ofTestimonials.opening (.forEach view.items Testimonials.itemMarkup) view.markup
  stats : ∀ view : Stats, Around ofStats.opening (.forEach view.items Stats.itemMarkup) view.markup
  cards : ∀ view : Cards, Around ofCards.opening (.forEach view.items Cards.itemMarkup) view.markup

/-- In every view, all but the items opens none. -/
theorem viewsAround : ViewsAround := by
  have tags := tag_of_mem
  simp only [all, List.forall_mem_cons] at tags
  obtain ⟨features, faq, testimonials, stats, cards, -⟩ := tags
  refine ⟨fun view => ?_, fun view => ?_, fun view => ?_, fun view => ?_, fun view => ?_⟩
  all_goals
    simp only [Features.markup, Faq.markup, Testimonials.markup, Stats.markup, Cards.markup]
    repeat' first
      | with_reducible refine around_here ?_
      | with_reducible refine around_cons ?_ ?_
      | with_reducible exact bare_nil
      | with_reducible exact bare_shown ‹_› _
      | with_reducible refine bare_cons ?_ ?_
      | with_reducible refine bare_whenText fun text => ?_
      | simp only [titleMarkup, headingMarkup]
      | exact bare_literal rfl (by decide)

/-- Features are listed. -/
theorem lists_features : ofFeatures.Lists Features.draws
    fun view => .forEach view.items Features.itemMarkup where
  around := viewsAround.features
  records entries view read := by
    obtain ⟨records, found, read⟩ := bind_eq_ok_iff.mp read
    obtain ⟨title, _, read⟩ := bind_eq_ok_iff.mp read
    obtain ⟨subtitle, _, read⟩ := bind_eq_ok_iff.mp read
    obtain ⟨columns, _, read⟩ := bind_eq_ok_iff.mp read
    cases read
    rw [Markup.forEach, List.flatMap_map]
    refine exists_items ofFeatures found fun part place => ?_
    simp (disch := decide) only [ofFeatures, field_completed, List.getD_cons_zero, List.getD_cons_succ,
      orElse_nil]
    rfl

/-- Questions are listed, with their places. -/
theorem lists_faq : ofFaq.Lists Faq.draws
    fun view => .forEach view.items.zipIdx Faq.itemMarkup where
  around := viewsAround.faq
  records entries view read := by
    obtain ⟨records, found, read⟩ := bind_eq_ok_iff.mp read
    obtain ⟨title, _, read⟩ := bind_eq_ok_iff.mp read
    cases read
    rw [Markup.forEach, List.zipIdx_map, List.flatMap_map]
    refine exists_items ofFaq found fun part place => ?_
    simp (disch := decide) only [ofFaq, field_completed, List.getD_cons_zero, List.getD_cons_succ]
    rfl

/-- Testimonials are listed. -/
theorem lists_testimonials : ofTestimonials.Lists Testimonials.draws
    fun view => .forEach view.items Testimonials.itemMarkup where
  around := viewsAround.testimonials
  records entries view read := by
    obtain ⟨records, found, read⟩ := bind_eq_ok_iff.mp read
    obtain ⟨title, _, read⟩ := bind_eq_ok_iff.mp read
    cases read
    rw [Markup.forEach, List.flatMap_map]
    refine exists_items_anywhere ofTestimonials found fun part place => ?_
    simp (disch := decide) only [ofTestimonials, field_completed, List.getD_cons_zero, List.getD_cons_succ,
      orElse_nil]
    rfl

/-- Key numbers are listed. -/
theorem lists_stats : ofStats.Lists Stats.draws
    fun view => .forEach view.items Stats.itemMarkup where
  around := viewsAround.stats
  records entries view read := by
    obtain ⟨records, found, read⟩ := bind_eq_ok_iff.mp read
    cases read
    rw [Markup.forEach, List.flatMap_map]
    refine exists_items_anywhere ofStats found fun part place => ?_
    simp (disch := decide) only [ofStats, field_completed, List.getD_cons_zero, List.getD_cons_succ,
      orElse_nil]
    rfl

/-- Cards are listed. -/
theorem lists_cards : ofCards.Lists Cards.draws
    fun view => .forEach view.items Cards.itemMarkup where
  around := viewsAround.cards
  records entries view read := by
    obtain ⟨records, found, read⟩ := bind_eq_ok_iff.mp read
    obtain ⟨title, _, read⟩ := bind_eq_ok_iff.mp read
    obtain ⟨columns, _, read⟩ := bind_eq_ok_iff.mp read
    cases read
    rw [Markup.forEach, List.flatMap_map]
    refine exists_items_anywhere ofCards found fun part place => ?_
    simp (disch := decide) only [ofCards, field_completed, List.getD_cons_zero, List.getD_cons_succ]
    rfl

/-- The markup of every listing is written around the items of its records. -/
theorem produces_of_mem {config : Config} (short : ∀ entry ∈ config.entries, IsShort entry.2) :
    ∀ listing ∈ all, ∃ text written,
      (Entries.value (effective listing.definition.defaults (.ofConfig config)) "items").shown [] =
          .ok text ∧
        listing.definition.html (.ofConfig config) = .produced (.text (Markup.render written)) ∧
        Around listing.opening (listing.items (parts text)).flatten written := by
  simp only [all, List.forall_mem_cons]
  exact ⟨lists_features.produces short, lists_faq.produces short, lists_testimonials.produces short,
    lists_stats.produces short, lists_cards.produces short, List.forall_mem_nil _⟩

/-- No opening overlaps another one. -/
theorem single_of_mem : ∀ listing ∈ all, isFree listing.opening (listing.opening.drop 1) = true := by
  simp only [all, List.forall_mem_cons]
  exact ⟨by decide, by decide, by decide, by decide, by decide, List.forall_mem_nil _⟩

/-- The texts of an item are those of its record. -/
theorem texts_item : ∀ listing ∈ all, ∀ place fields,
    (listing.item place fields).texts = listing.shown place fields := by
  simp only [all, List.forall_mem_cons]
  exact ⟨fun _ _ => rfl, fun _ _ => rfl, fun _ _ => rfl, fun _ _ => rfl, fun _ _ => rfl,
    List.forall_mem_nil _⟩

/-! ### Counting items -/

section Counting

variable {listing : Listing} (tag : listing.opening.head? = some CodePoint.lessThan)
  (single : isFree listing.opening (listing.opening.drop 1) = true)
include tag single

/-- Every item begins once. -/
theorem occurrences_item {markup : Markup} (opens : listing.Opens markup) (behind : Text) :
    occurrences listing.opening (markup.render ++ behind) = 1 + occurrences listing.opening behind := by
  obtain ⟨inner, written, free⟩ := opens
  obtain ⟨further, same⟩ := List.head?_eq_some_iff.mp tag
  have nonempty : listing.opening ≠ [] := same ▸ List.cons_ne_nil _ further
  have indent : isFree listing.opening (Text.ofString "      ") = true := by
    rw [same]
    exact isFree_of_not_mem (by decide)
  rw [written, List.append_assoc, List.append_assoc, occurrences_append indent,
    occurrences_pattern_append nonempty single, occurrences_append free]

/-- As many items are opened as there are, and those behind them. -/
theorem occurrences_flatten {markups : List Markup} (opens : ∀ markup ∈ markups, listing.Opens markup)
    (behind : Text) : occurrences listing.opening (Markup.render markups.flatten ++ behind) =
      markups.length + occurrences listing.opening behind := by
  induction markups with
  | nil => exact (Nat.zero_add _).symm
  | cons first rest ih =>
    rw [List.flatten_cons, Markup.render_append, List.append_assoc,
      occurrences_item tag single (opens first (.head _)),
      ih fun markup inside => opens markup (.tail _ inside), List.length_cons]
    omega

end Counting

end Listing

/-- **List blocks show one item for each record, in order.** A block type that lists records renders every
configuration without integers too long to write. Let `text` be what the value of its items says. It has no
records if it is empty, and else one more than it has semicolons. The markup consists of their items, one
after the other in their order, between a front and a back without any. Each item is one element and shows
the fields of its record: those between bars, without blanks around them, with a fallback in place of what
is missing or empty. -/
theorem html_listing (config : Config) (short : ∀ entry ∈ config.entries, IsShort entry.2) :
    ∀ listing ∈ Listing.all, ∃ text front behind html,
      (Entries.value (effective listing.definition.defaults (.ofConfig config)) "items").shown [] =
          .ok text ∧
        listing.definition.html (.ofConfig config) = .produced (.text html) ∧
        html = front ++ (concat ((parts text).mapIdx fun place part =>
          (listing.item place (completed listing.fallbacks part)).render) ++ behind) ∧
        occurrences listing.opening front = 0 ∧ occurrences listing.opening behind = 0 ∧
        (parts text).length = (if text = [] then 0 else 1 + text.count CodePoint.semicolon) ∧
        occurrences listing.opening html = (parts text).length ∧
        ∀ place fields, listing.Opens (listing.item place fields) ∧
          (listing.item place fields).texts = listing.shown place fields := by
  intro listing listed
  have tag := Listing.tag_of_mem listing listed
  have single := Listing.single_of_mem listing listed
  have opens := Listing.opens_item listing listed
  obtain ⟨text, written, shown, produced, front, behind, around, free, free'⟩ :=
    Listing.produces_of_mem short listing listed
  have items : Markup.render (listing.items (parts text)).flatten = concat ((parts text).mapIdx
      fun place part => (listing.item place (completed listing.fallbacks part)).render) := by
    rw [Listing.items, ← Markup.concat, Markup.render_concat, List.mapIdx_eq_zipIdx_map,
      List.mapIdx_eq_zipIdx_map, List.map_map]
    rfl
  refine ⟨text, front, behind, written.render, shown, produced, items ▸ around,
    occurrences_of_isFree free, occurrences_of_isFree free', length_parts text, ?_,
    fun place fields => ⟨opens place fields, Listing.texts_item listing listed place fields⟩⟩
  have each : ∀ markup ∈ listing.items (parts text), listing.Opens markup := by
    intro markup inside
    obtain ⟨place, _, rfl⟩ := List.mem_mapIdx.mp inside
    exact opens place _
  rw [around, occurrences_append free, Listing.occurrences_flatten tag single each,
    occurrences_of_isFree free', Nat.add_zero, Listing.items, List.length_mapIdx]

/-- Questions of which the second has no answer. -/
def openQuestions : Config :=
  .ofList [("items", .text "Why? | Because ;How?"), ("title", .integer (-7))]

theorem html_listing_openQuestions :
    ∃ html, faq.html (.ofConfig openQuestions) = .produced (.text html) ∧
      occurrences "<div class=\"cs-faq__item\">" html = 2 := by
  have short : ∀ entry ∈ openQuestions.entries, IsShort entry.2 := by decide
  have said : (Entries.value (effective Faq.defaults (.ofConfig openQuestions)) "items").shown [] =
      .ok (Text.ofString "Why? | Because ;How?") := by decide +kernel
  obtain ⟨text, _, _, html, shown, produced, _, _, _, length, count, _⟩ :=
    html_listing openQuestions short Listing.ofFaq (.tail _ (.head _))
  obtain rfl : text = Text.ofString "Why? | Because ;How?" := Except.ok.inj (shown.symm.trans said)
  refine ⟨html, produced, ?_⟩
  exact count.trans length

end BlockPage.Library
