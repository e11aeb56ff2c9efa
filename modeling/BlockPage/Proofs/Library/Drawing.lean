/-
**How block types are drawn.**

* `Draws`: what is to be known of a block type that reads a view of its configuration and writes it as
  markup: that reading succeeds, that the markup is one element, from which literals it is written, and
  what of the configuration decides which of them.
* `AlikeUnder`: two configurations that decide alike.
* the block types of the landmarks and the generic section, one `draws` for each.
-/

import BlockPage.Library.Frame
import BlockPage.Library.Headlines
import BlockPage.Proofs.Library.Pieces
import BlockPage.Proofs.Library.Readings

namespace BlockPage.Library

/-- The values under some keys are alike in two maps. -/
def AlikeUnder (uses : List (Text × Use)) (left right : Entries) : Prop :=
  ∀ use ∈ uses, use.2.Alike (left.value use.1) (right.value use.1)

/-- A block type shows a view of its configuration as one element. -/
structure Draws (definition : Definition) (uses : List (Text × Use)) (texts : List Text) {View : Type}
    (read : Entries → Except Problem View) (markup : View → Markup) : Prop where
  html : definition.html = viewTemplate definition.defaults read fun view => (markup view).render
  css : ∃ text, definition.css = .constant (.text text)
  js : ∃ text, definition.js = .constant (.text text)
  /-- Defaults can be shown. -/
  defaults : ∀ entry ∈ definition.defaults.entries, ¬ entry.2.Unwritable
  reads : ∀ entries, Readable entries → Succeeds (read entries)
  element : ∀ view, (markup view).IsElement
  inside : ∀ view, (markup view).trimmed.literals ⊆ texts
  alike : ∀ left right, AlikeUnder uses left right →
    Agree (fun view other => (markup view).literals = (markup other).literals) (read left) (read right)

/-- A block type with what is asked of its configurations, the markup of a configuration, and the literals
from which that is written. -/
structure Drawing where
  definition : Definition
  uses : List (Text × Use)
  draw : Entries → Except Problem Markup
  texts : List Text

/-- The drawing that writes a view as markup. `full` is a view with everything that a view can have. -/
def Drawing.ofView (definition : Definition) (uses : List (Text × Use)) {View : Type}
    (read : Entries → Except Problem View) (markup : View → Markup) (full : View) : Drawing :=
  ⟨definition, uses, fun entries => (read entries).map markup, (markup full).trimmed.literals⟩

/-- The block type renders what is drawn, which is one element. -/
structure Drawing.IsSound (drawing : Drawing) : Prop where
  html : ∀ entries, drawing.definition.html entries = .ofExcept
    ((drawing.draw (effective drawing.definition.defaults entries)).map Markup.render)
  css : ∃ text, drawing.definition.css = .constant (.text text)
  js : ∃ text, drawing.definition.js = .constant (.text text)
  defaults : ∀ entry ∈ drawing.definition.defaults.entries, ¬ entry.2.Unwritable
  draws : ∀ entries, Readable entries → Succeeds (drawing.draw entries)
  element : ∀ entries markup, drawing.draw entries = .ok markup → markup.IsElement
  inside : ∀ entries markup, drawing.draw entries = .ok markup → markup.trimmed.literals ⊆ drawing.texts
  alike : ∀ left right, AlikeUnder drawing.uses left right →
    Agree (fun first second => first.literals = second.literals) (drawing.draw left) (drawing.draw right)

/-- A view that is drawn makes a sound drawing. -/
theorem Draws.isSound {definition : Definition} {uses : List (Text × Use)} {View : Type}
    {read : Entries → Except Problem View} {markup : View → Markup} {full : View}
    (draws : Draws definition uses (markup full).trimmed.literals read markup) :
    (Drawing.ofView definition uses read markup full).IsSound where
  html entries := by
    show definition.html entries =
      .ofExcept (((read (effective definition.defaults entries)).map markup).map Markup.render)
    rw [draws.html, viewTemplate]
    cases read (effective definition.defaults entries) <;> rfl
  css := draws.css
  js := draws.js
  defaults := draws.defaults
  draws entries readable := (draws.reads entries readable).map markup
  element entries written drawn := by
    obtain ⟨view, _, rfl⟩ := exists_of_map_eq_ok drawn
    exact draws.element view
  inside entries written drawn := by
    obtain ⟨view, _, rfl⟩ := exists_of_map_eq_ok drawn
    exact draws.inside view
  alike left right same := (draws.alike left right same).map fun _ _ same => same

/-! ### The navigation bar -/

namespace Navbar

/-- What is asked of a configuration. -/
def uses : List (Text × Use) :=
  [("brand", .shown), ("links", .parts CodePoint.comma), ("cta", .optional), ("sticky", .switch)]

/-- A bar with everything that a bar can have. -/
def full : Navbar := ⟨[120], [[120]], [120], true⟩

theorem literals_linkMarkup (first second : Text) :
    (linkMarkup first).literals = (linkMarkup second).literals := rfl

/-- The navigation bar is drawn soundly. -/
theorem draws : Draws navbar uses full.markup.trimmed.literals Navbar.read Navbar.markup where
  html := rfl
  css := ⟨style, rfl⟩
  js := ⟨script, rfl⟩
  defaults := writable_configOf (by decide)
  reads _ readable :=
    ((readable "brand").text "pagecraft").bind fun _ =>
    ((readable "links").parts CodePoint.comma).bind fun _ =>
    ((readable "cta").text []).bind fun _ => .pure _
  element _ := Markup.isElement_concat rfl rfl (by decide) (by decide)
  inside view written := by
    simp [Navbar.markup, full, linkMarkup, actionMarkup, Markup.literals_forEach]
    grind
  alike left right same := by
    simp only [AlikeUnder, uses, List.forall_mem_cons] at same
    obtain ⟨brand, links, action, sticky, -⟩ := same
    refine (brand.text "pagecraft").bind fun _ _ _ => ?_
    refine links.bind fun _ _ links => ?_
    refine action.bind fun _ _ action => ?_
    have items := Markup.literals_forEach_eq literals_linkMarkup links.length_filter
    have sticky : flag _ = flag _ := sticky
    show Markup.literals _ = Markup.literals _
    simp [Navbar.markup, actionMarkup, items, action, sticky]

end Navbar

/-! ### The footer -/

namespace Footer

/-- What is asked of a configuration. -/
def uses : List (Text × Use) :=
  [("cols", .table CodePoint.semicolon CodePoint.comma), ("brand", .shown), ("tagline", .shown),
    ("year", .optional)]

/-- A footer with everything that a footer can have. -/
def full : Footer := ⟨[120], [120], [⟨[120], [[120]]⟩], [120]⟩

theorem literals_linkMarkup (first second : Text) :
    (linkMarkup first).literals = (linkMarkup second).literals := rfl

/-- Columns with as many links have the same literals. -/
theorem literals_columnMarkup {first second : LinkColumn} (same : first.links.length = second.links.length) :
    (columnMarkup first).literals = (columnMarkup second).literals := by
  have links := Markup.literals_forEach_eq literals_linkMarkup same
  simp [columnMarkup, links]

/-- Columns whose parts are empty at the same places have the same literals. -/
theorem forall₂_readColumn {written other : List Text}
    (same : List.Forall₂ (fun first second =>
      SameGaps (cells CodePoint.comma first) (cells CodePoint.comma second)) written other) :
    List.Forall₂ (fun first second => (columnMarkup first).literals = (columnMarkup second).literals)
      (written.map readColumn) (other.map readColumn) := by
  rw [List.forall₂_map_left_iff, List.forall₂_map_right_iff]
  exact same.imp fun _ _ same => literals_columnMarkup same.tail.length_filter

/-- The footer is drawn soundly. -/
theorem draws : Draws footer uses full.markup.trimmed.literals Footer.read Footer.markup where
  html := rfl
  css := ⟨style, rfl⟩
  js := ⟨[], rfl⟩
  defaults := writable_textsOf _
  reads _ readable :=
    ((readable "cols").parts CodePoint.semicolon).bind fun _ =>
    ((readable "brand").text "pagecraft").bind fun _ =>
    ((readable "tagline").text []).bind fun _ =>
    ((readable "year").text []).bind fun _ => .pure _
  element _ := Markup.isElement_concat rfl rfl (by decide) (by decide)
  inside view written := by
    simp [Footer.markup, full, columnMarkup, linkMarkup, Markup.literals_forEach]
    grind
  alike left right same := by
    simp only [AlikeUnder, uses, List.forall_mem_cons] at same
    obtain ⟨columns, brand, tagline, year, -⟩ := same
    refine columns.bind fun _ _ columns => ?_
    refine (brand.text "pagecraft").bind fun _ _ _ => ?_
    refine (tagline.text []).bind fun _ _ _ => ?_
    refine year.bind fun _ _ year => ?_
    have items := Markup.literals_forEach_congr (forall₂_readColumn columns)
    show Markup.literals _ = Markup.literals _
    simp [Footer.markup, items, year]

end Footer

/-! ### The generic section -/

namespace GenericSection

/-- What is asked of a configuration. -/
def uses : List (Text × Use) :=
  [("title", .optional), ("subtitle", .optional), ("bg", .choice ["alt"])]

/-- A section with everything that a section can have. -/
def full : GenericSection := ⟨[120], [120], true⟩

/-- The generic section is drawn soundly. -/
theorem draws :
    Draws genericSection uses full.markup.trimmed.literals GenericSection.read GenericSection.markup where
  html := rfl
  css := ⟨style, rfl⟩
  js := ⟨[], rfl⟩
  defaults := writable_textsOf _
  reads _ readable :=
    ((readable "title").text []).bind fun _ =>
    ((readable "subtitle").text []).bind fun _ =>
    ((readable "bg").text []).bind fun _ => .pure _
  element _ := Markup.isElement_concat rfl rfl (by decide) (by decide)
  inside view written := by
    simp [GenericSection.markup, full, headingMarkup]
    grind
  alike left right same := by
    simp only [AlikeUnder, uses, List.forall_mem_cons] at same
    obtain ⟨title, subtitle, background, -⟩ := same
    refine title.bind fun _ _ title => ?_
    refine subtitle.bind fun _ _ subtitle => ?_
    refine background.bind fun _ _ background => ?_
    have alternate := background "alt" (.head _)
    show Markup.literals _ = Markup.literals _
    simp [GenericSection.markup, headingMarkup, title, subtitle, alternate]

end GenericSection

end BlockPage.Library
