/-
**How the contents of a page are drawn.**

* the block types with contents, one `draws` for each.
* `drawings`, `isSound_of_mem`: all block types of the library with what is known of them.
-/

import BlockPage.Library.Standard
import BlockPage.Proofs.Library.Drawing

namespace BlockPage.Library

/-! ### The opening section -/

namespace Hero

/-- What is asked of a configuration. -/
def uses : List (Text × Use) :=
  [("badge", .optional), ("title", .shown), ("subtitle", .shown), ("cta", .optional),
    ("cta2", .optional)]

/-- An opening section with everything that it can have. -/
def full : Hero := ⟨[120], [120], [120], [120], [120]⟩

/-- The opening section is drawn soundly. -/
theorem draws : Draws hero uses full.markup.trimmed.literals Hero.read Hero.markup where
  html := rfl
  css := ⟨style, rfl⟩
  js := ⟨[], rfl⟩
  defaults := writable_textsOf _
  reads _ readable :=
    ((readable "badge").text []).bind fun _ =>
    ((readable "title").text []).bind fun _ =>
    ((readable "subtitle").text []).bind fun _ =>
    ((readable "cta").text []).bind fun _ =>
    ((readable "cta2").text []).bind fun _ => .pure _
  element _ := Markup.isElement_concat rfl rfl (by decide) (by decide)
  inside view written := by
    simp [Hero.markup, full]
    grind
  alike left right same := by
    simp only [AlikeUnder, uses, List.forall_mem_cons] at same
    obtain ⟨badge, title, subtitle, action, second, -⟩ := same
    refine badge.bind fun _ _ badge => ?_
    refine (title.text []).bind fun _ _ _ => ?_
    refine (subtitle.text []).bind fun _ _ _ => ?_
    refine action.bind fun _ _ action => ?_
    refine second.bind fun _ _ second => ?_
    show Markup.literals _ = Markup.literals _
    simp [Hero.markup, badge, action, second]

end Hero

/-! ### The grid of features -/

namespace Features

/-- What is asked of a configuration. -/
def uses : List (Text × Use) :=
  [("items", .parts CodePoint.semicolon), ("title", .optional), ("subtitle", .optional),
    ("cols", .shown)]

/-- A grid with everything that it can have. -/
def full : Features := ⟨[120], [120], [120], [⟨[120], [120], [120]⟩]⟩

theorem literals_itemMarkup (first second : Feature) :
    (itemMarkup first).literals = (itemMarkup second).literals := rfl

/-- The grid of features is drawn soundly. -/
theorem draws : Draws features uses full.markup.trimmed.literals Features.read Features.markup where
  html := rfl
  css := ⟨style, rfl⟩
  js := ⟨[], rfl⟩
  defaults := writable_textsOf _
  reads _ readable :=
    ((readable "items").records 2).bind fun _ =>
    ((readable "title").text []).bind fun _ =>
    ((readable "subtitle").text []).bind fun _ =>
    (readable "cols").columns.bind fun _ => .pure _
  element _ := Markup.isElement_concat rfl rfl (by decide) (by decide)
  inside view written := by
    simp [Features.markup, full, headingMarkup, itemMarkup, Markup.literals_forEach]
    grind
  alike left right same := by
    simp only [AlikeUnder, uses, List.forall_mem_cons] at same
    obtain ⟨records, title, subtitle, columns, -⟩ := same
    refine (records.records 2).bind fun first second records => ?_
    refine title.bind fun _ _ title => ?_
    refine subtitle.bind fun _ _ subtitle => ?_
    refine columns.columns.bind fun _ _ _ => ?_
    have count : (first.zipIdx.map readFeature).length = (second.zipIdx.map readFeature).length := by
      simp [records]
    have items := Markup.literals_forEach_eq literals_itemMarkup count
    show Markup.literals _ = Markup.literals _
    simp [Features.markup, headingMarkup, items, title, subtitle]

end Features

/-! ### The table of prices -/

namespace Pricing

/-- What is asked of a configuration. -/
def uses : List (Text × Use) :=
  [("featured", .choice ["0", "1", "2"]), ("plan1", .parts CodePoint.semicolon),
    ("plan2", .parts CodePoint.semicolon), ("plan3", .parts CodePoint.semicolon), ("title", .optional)]

/-- A table with everything that it can have. -/
def full : Pricing := ⟨[120], [⟨[120], [120], [[120]], true⟩]⟩

theorem literals_featureMarkup (first second : Text) :
    (featureMarkup first).literals = (featureMarkup second).literals := rfl

/-- Plans with as many features, both or neither of which is the featured one, have the same literals. -/
theorem literals_planMarkup {first second : Plan} (features : first.features.length = second.features.length)
    (featured : first.featured = second.featured) :
    (planMarkup first).literals = (planMarkup second).literals := by
  have items := Markup.literals_forEach_eq literals_featureMarkup features
  simp [planMarkup, items, featured]

/-- The plan of a key and its place. -/
def readPlan (entries : Entries) (featured : Text) (key : String × Nat) : Except Problem Plan := do
  let parts ← splitList (entries.value key.1) [CodePoint.semicolon]
  return plan featured key.2 parts

/-- Plans of texts with the same gaps have the same literals, if both or neither is the featured one. -/
theorem agree_readPlan {left right : Entries} {featured other : Text} {key : String × Nat}
    (alike : (Use.parts CodePoint.semicolon).Alike (left.value key.1) (right.value key.1))
    (same : featured = Number.decimal key.2 ↔ other = Number.decimal key.2) :
    Agree (fun first second => (planMarkup first).literals = (planMarkup second).literals)
      (readPlan left featured key) (readPlan right other key) :=
  Agree.bind alike fun _ _ parts =>
    literals_planMarkup parts.tail.length_filter (decide_eq_decide.mpr same)

/-- The table of prices is drawn soundly; which plan is featured changes its literals. -/
theorem draws : Draws pricing uses full.markup.trimmed.literals Pricing.read Pricing.markup where
  html := rfl
  css := ⟨style, rfl⟩
  js := ⟨[], rfl⟩
  defaults := writable_textsOf _
  reads entries readable :=
    ((readable "featured").text []).bind fun featured =>
    have plans : Succeeds (planKeys.zipIdx.mapM (readPlan entries featured)) :=
      exists_mapM_eq_ok_iff.mpr fun key _ =>
        ((readable key.1).parts CodePoint.semicolon).bind fun _ => .pure _
    plans.bind fun _ => ((readable "title").text []).bind fun _ => .pure _
  element _ := Markup.isElement_concat rfl rfl (by decide) (by decide)
  inside view written := by
    simp [Pricing.markup, full, titleMarkup, headingMarkup, planMarkup, featureMarkup,
      Markup.literals_forEach]
    grind
  alike left right same := by
    simp only [AlikeUnder, uses, List.forall_mem_cons] at same
    obtain ⟨featured, first, second, third, title, -⟩ := same
    refine featured.bind fun text other featured => ?_
    have each : ∀ key ∈ planKeys.zipIdx,
        Agree (fun first second => (planMarkup first).literals = (planMarkup second).literals)
          (readPlan left text key) (readPlan right other key) := by
      simp only [planKeys, List.zipIdx, List.forall_mem_cons]
      exact ⟨agree_readPlan first (featured "0" (by decide)),
        agree_readPlan second (featured "1" (by decide)),
        agree_readPlan third (featured "2" (by decide)), List.forall_mem_nil _⟩
    refine (Agree.mapM each).bind fun _ _ plans => ?_
    refine title.bind fun _ _ title => ?_
    have items := Markup.literals_forEach_congr plans
    show Markup.literals _ = Markup.literals _
    simp [Pricing.markup, titleMarkup, headingMarkup, items, title]

end Pricing

/-! ### Questions and answers -/

namespace Faq

/-- What is asked of a configuration. -/
def uses : List (Text × Use) := [("items", .parts CodePoint.semicolon), ("title", .optional)]

/-- A list with everything that it can have. -/
def full : Faq := ⟨[120], [⟨[120], [120]⟩]⟩

theorem literals_itemMarkup (first second : Question × Nat) :
    (itemMarkup first).literals = (itemMarkup second).literals := rfl

/-- Questions and answers are drawn soundly, their places apart. -/
theorem draws : Draws faq uses full.markup.trimmed.literals Faq.read Faq.markup where
  html := rfl
  css := ⟨style, rfl⟩
  js := ⟨script, rfl⟩
  defaults := writable_textsOf _
  reads _ readable :=
    ((readable "items").records 2).bind fun _ =>
    ((readable "title").text []).bind fun _ => .pure _
  element _ := Markup.isElement_concat rfl rfl (by decide) (by decide)
  inside view written := by
    simp [Faq.markup, full, titleMarkup, headingMarkup, itemMarkup, answerId, Markup.literals_forEach]
    grind
  alike left right same := by
    simp only [AlikeUnder, uses, List.forall_mem_cons] at same
    obtain ⟨records, title, -⟩ := same
    refine (records.records 2).bind fun first second records => ?_
    refine title.bind fun _ _ title => ?_
    have count :
        ((first.map readQuestion).zipIdx).length = ((second.map readQuestion).zipIdx).length := by
      simp [records]
    have items := Markup.literals_forEach_eq literals_itemMarkup count
    show Markup.literals _ = Markup.literals _
    simp [Faq.markup, titleMarkup, headingMarkup, items, title]

end Faq

/-! ### Testimonials -/

namespace Testimonials

/-- What is asked of a configuration. -/
def uses : List (Text × Use) := [("items", .parts CodePoint.semicolon), ("title", .optional)]

/-- A row with everything that it can have. -/
def full : Testimonials := ⟨[120], [⟨[120], [120], [120], [120]⟩]⟩

theorem literals_itemMarkup (first second : Testimonial) :
    (itemMarkup first).literals = (itemMarkup second).literals := rfl

/-- Testimonials are drawn soundly. -/
theorem draws :
    Draws testimonials uses full.markup.trimmed.literals Testimonials.read Testimonials.markup where
  html := rfl
  css := ⟨style, rfl⟩
  js := ⟨[], rfl⟩
  defaults := writable_textsOf _
  reads _ readable :=
    ((readable "items").records 4).bind fun _ =>
    ((readable "title").text []).bind fun _ => .pure _
  element _ := Markup.isElement_concat rfl rfl (by decide) (by decide)
  inside view written := by
    simp [Testimonials.markup, full, titleMarkup, headingMarkup, itemMarkup, Markup.literals_forEach]
    grind
  alike left right same := by
    simp only [AlikeUnder, uses, List.forall_mem_cons] at same
    obtain ⟨records, title, -⟩ := same
    refine (records.records 4).bind fun first second records => ?_
    refine title.bind fun _ _ title => ?_
    have count : (first.map readTestimonial).length = (second.map readTestimonial).length := by simp [records]
    have items := Markup.literals_forEach_eq literals_itemMarkup count
    show Markup.literals _ = Markup.literals _
    simp [Testimonials.markup, titleMarkup, headingMarkup, items, title]

end Testimonials

/-! ### The call to action -/

namespace CallToAction

/-- What is asked of a configuration. -/
def uses : List (Text × Use) :=
  [("title", .shown), ("subtitle", .shown), ("cta", .optional), ("cta2", .optional)]

/-- A call with everything that it can have. -/
def full : CallToAction := ⟨[120], [120], [120], [120]⟩

/-- The call to action is drawn soundly. -/
theorem draws :
    Draws callToAction uses full.markup.trimmed.literals CallToAction.read CallToAction.markup where
  html := rfl
  css := ⟨style, rfl⟩
  js := ⟨[], rfl⟩
  defaults := writable_textsOf _
  reads _ readable :=
    ((readable "title").text []).bind fun _ =>
    ((readable "subtitle").text []).bind fun _ =>
    ((readable "cta").text []).bind fun _ =>
    ((readable "cta2").text []).bind fun _ => .pure _
  element _ := Markup.isElement_concat rfl rfl (by decide) (by decide)
  inside view written := by
    simp [CallToAction.markup, full]
    grind
  alike left right same := by
    simp only [AlikeUnder, uses, List.forall_mem_cons] at same
    obtain ⟨title, subtitle, action, second, -⟩ := same
    refine (title.text []).bind fun _ _ _ => ?_
    refine (subtitle.text []).bind fun _ _ _ => ?_
    refine action.bind fun _ _ action => ?_
    refine second.bind fun _ _ second => ?_
    show Markup.literals _ = Markup.literals _
    simp [CallToAction.markup, action, second]

end CallToAction

/-! ### Key numbers -/

namespace Stats

/-- What is asked of a configuration. -/
def uses : List (Text × Use) := [("items", .parts CodePoint.semicolon)]

/-- A row with everything that it can have. -/
def full : Stats := ⟨[⟨[120], [120]⟩]⟩

theorem literals_itemMarkup (first second : Stat) :
    (itemMarkup first).literals = (itemMarkup second).literals := rfl

/-- Key numbers are drawn soundly. -/
theorem draws : Draws stats uses full.markup.trimmed.literals Stats.read Stats.markup where
  html := rfl
  css := ⟨style, rfl⟩
  js := ⟨[], rfl⟩
  defaults := writable_textsOf _
  reads _ readable := ((readable "items").records 2).bind fun _ => .pure _
  element _ := Markup.isElement_concat rfl rfl (by decide) (by decide)
  inside view written := by
    simp [Stats.markup, full, itemMarkup, Markup.literals_forEach]
    grind
  alike left right same := by
    simp only [AlikeUnder, uses, List.forall_mem_cons] at same
    obtain ⟨records, -⟩ := same
    refine (records.records 2).bind fun first second records => ?_
    have count : (first.map readStat).length = (second.map readStat).length := by simp [records]
    have items := Markup.literals_forEach_eq literals_itemMarkup count
    show Markup.literals _ = Markup.literals _
    simp [Stats.markup, items]

end Stats

/-! ### The grid of cards -/

namespace Cards

/-- What is asked of a configuration. -/
def uses : List (Text × Use) :=
  [("items", .parts CodePoint.semicolon), ("title", .optional), ("cols", .shown)]

/-- A grid with everything that it can have. -/
def full : Cards := ⟨[120], [120], [⟨[120], [120]⟩]⟩

theorem literals_itemMarkup (first second : Card) :
    (itemMarkup first).literals = (itemMarkup second).literals := rfl

/-- The grid of cards is drawn soundly. -/
theorem draws : Draws cards uses full.markup.trimmed.literals Cards.read Cards.markup where
  html := rfl
  css := ⟨style, rfl⟩
  js := ⟨[], rfl⟩
  defaults := writable_textsOf _
  reads _ readable :=
    ((readable "items").records 2).bind fun _ =>
    ((readable "title").text []).bind fun _ =>
    (readable "cols").columns.bind fun _ => .pure _
  element _ := Markup.isElement_concat rfl rfl (by decide) (by decide)
  inside view written := by
    simp [Cards.markup, full, titleMarkup, headingMarkup, itemMarkup, Markup.literals_forEach]
    grind
  alike left right same := by
    simp only [AlikeUnder, uses, List.forall_mem_cons] at same
    obtain ⟨records, title, columns, -⟩ := same
    refine (records.records 2).bind fun first second records => ?_
    refine title.bind fun _ _ title => ?_
    refine columns.columns.bind fun _ _ _ => ?_
    have count : (first.map readCard).length = (second.map readCard).length := by simp [records]
    have items := Markup.literals_forEach_eq literals_itemMarkup count
    show Markup.literals _ = Markup.literals _
    simp [Cards.markup, titleMarkup, headingMarkup, items, title]

end Cards

/-! ### The whole library -/

/-- The block types of the library as they are drawn. -/
def drawings : List Drawing :=
  [.ofView navbar Navbar.uses Navbar.read Navbar.markup .full,
    .ofView footer Footer.uses Footer.read Footer.markup .full,
    .ofView genericSection GenericSection.uses GenericSection.read GenericSection.markup .full,
    .ofView hero Hero.uses Hero.read Hero.markup .full,
    .ofView features Features.uses Features.read Features.markup .full,
    .ofView pricing Pricing.uses Pricing.read Pricing.markup .full,
    .ofView faq Faq.uses Faq.read Faq.markup .full,
    .ofView testimonials Testimonials.uses Testimonials.read Testimonials.markup .full,
    .ofView callToAction CallToAction.uses CallToAction.read CallToAction.markup .full,
    .ofView stats Stats.uses Stats.read Stats.markup .full,
    .ofView cards Cards.uses Cards.read Cards.markup .full]

/-- **Every block type is drawn soundly.** -/
theorem isSound_of_mem : ∀ drawing ∈ drawings, drawing.IsSound := by
  simp only [drawings, List.forall_mem_cons]
  exact ⟨Navbar.draws.isSound, Footer.draws.isSound, GenericSection.draws.isSound, Hero.draws.isSound,
    Features.draws.isSound, Pricing.draws.isSound, Faq.draws.isSound, Testimonials.draws.isSound,
    CallToAction.draws.isSound, Stats.draws.isSound, Cards.draws.isSound, List.forall_mem_nil _⟩

end BlockPage.Library
