/-
**Templates read nothing else.**

What is drawn of a configuration depends on the values under the keys that the block type asks about alone,
and of a switch only on whether it is on. Which other keys there are, and in which order, makes no
difference.

* `Use.Same`, `SameUnder`: configurations in which a template reads the same.
* one `read_congr` for each block type; `draw_congr`: all of them.
-/

import BlockPage.Proofs.Library.Contents

namespace BlockPage.Library

/-- A template reads the same in two values: the same value, or a switch that is on in both or in
neither. -/
def Use.Same : Use → Value → Value → Prop
  | switch, left, right => flag left = flag right
  | _, left, right => left = right

/-- A template reads the same in two maps. -/
def SameUnder (uses : List (Text × Use)) (left right : Entries) : Prop :=
  ∀ use ∈ uses, use.2.Same (left.value use.1) (right.value use.1)

section Readings

variable {left right : Entries}

/-- A navigation bar is read from four entries. -/
theorem Navbar.read_congr (same : SameUnder uses left right) : read left = read right := by
  simp only [SameUnder, uses, List.forall_mem_cons, Use.Same] at same
  obtain ⟨brand, links, action, sticky, -⟩ := same
  rw [read, read, entryText, entryText, brand, links, action, sticky]

/-- A footer is read from four entries. -/
theorem Footer.read_congr (same : SameUnder uses left right) : read left = read right := by
  simp only [SameUnder, uses, List.forall_mem_cons, Use.Same] at same
  obtain ⟨columns, brand, tagline, year, -⟩ := same
  simp only [read, entryText, columns, brand, tagline, year]

/-- A generic section is read from three entries. -/
theorem GenericSection.read_congr (same : SameUnder uses left right) : read left = read right := by
  simp only [SameUnder, uses, List.forall_mem_cons, Use.Same] at same
  obtain ⟨title, subtitle, background, -⟩ := same
  simp only [read, entryText, title, subtitle, background]

/-- An opening section is read from five entries. -/
theorem Hero.read_congr (same : SameUnder uses left right) : read left = read right := by
  simp only [SameUnder, uses, List.forall_mem_cons, Use.Same] at same
  obtain ⟨badge, title, subtitle, action, second, -⟩ := same
  simp only [read, entryText, badge, title, subtitle, action, second]

/-- A grid of features is read from four entries. -/
theorem Features.read_congr (same : SameUnder uses left right) : read left = read right := by
  simp only [SameUnder, uses, List.forall_mem_cons, Use.Same] at same
  obtain ⟨items, title, subtitle, columns, -⟩ := same
  simp only [read, entryText, items, title, subtitle, columns]

/-- A table of prices is read from five entries, three of them plans. -/
theorem Pricing.read_congr (same : SameUnder uses left right) : read left = read right := by
  simp only [SameUnder, uses, List.forall_mem_cons, Use.Same] at same
  obtain ⟨featured, first, second, third, title, -⟩ := same
  -- the three plans are read one after the other
  simp only [read, entryText, planKeys, List.zipIdx, List.mapM_cons, List.mapM_nil, featured, first, second,
    third, title]

/-- Questions are read from two entries. -/
theorem Faq.read_congr (same : SameUnder uses left right) : read left = read right := by
  simp only [SameUnder, uses, List.forall_mem_cons, Use.Same] at same
  obtain ⟨items, title, -⟩ := same
  simp only [read, entryText, items, title]

/-- Testimonials are read from two entries. -/
theorem Testimonials.read_congr (same : SameUnder uses left right) : read left = read right := by
  simp only [SameUnder, uses, List.forall_mem_cons, Use.Same] at same
  obtain ⟨items, title, -⟩ := same
  simp only [read, entryText, items, title]

/-- A call to action is read from four entries. -/
theorem CallToAction.read_congr (same : SameUnder uses left right) : read left = read right := by
  simp only [SameUnder, uses, List.forall_mem_cons, Use.Same] at same
  obtain ⟨title, subtitle, action, second, -⟩ := same
  simp only [read, entryText, title, subtitle, action, second]

/-- Key numbers are read from one entry. -/
theorem Stats.read_congr (same : SameUnder uses left right) : read left = read right := by
  simp only [SameUnder, uses, List.forall_mem_cons, Use.Same] at same
  obtain ⟨items, -⟩ := same
  simp only [read, items]

/-- A grid of cards is read from three entries. -/
theorem Cards.read_congr (same : SameUnder uses left right) : read left = read right := by
  simp only [SameUnder, uses, List.forall_mem_cons, Use.Same] at same
  obtain ⟨items, title, columns, -⟩ := same
  simp only [read, entryText, items, title, columns]

end Readings

/-- What is drawn depends on what the template reads alone. -/
theorem draw_congr : ∀ drawing ∈ drawings, ∀ left right, SameUnder drawing.uses left right →
    drawing.draw left = drawing.draw right := by
  have ofView : ∀ {definition : Definition} {uses : List (Text × Use)} {View : Type}
      {read : Entries → Except Problem View} {markup : View → Markup} {full : View},
      (∀ {left right}, SameUnder uses left right → read left = read right) →
        ∀ left right, SameUnder (Drawing.ofView definition uses read markup full).uses left right →
          (Drawing.ofView definition uses read markup full).draw left =
            (Drawing.ofView definition uses read markup full).draw right :=
    fun congr _ _ same => congrArg (Except.map _) (congr same)
  simp only [drawings, List.forall_mem_cons]
  exact ⟨ofView Navbar.read_congr, ofView Footer.read_congr, ofView GenericSection.read_congr,
    ofView Hero.read_congr, ofView Features.read_congr, ofView Pricing.read_congr, ofView Faq.read_congr,
    ofView Testimonials.read_congr, ofView CallToAction.read_congr, ofView Stats.read_congr,
    ofView Cards.read_congr, List.forall_mem_nil _⟩

end BlockPage.Library
