/-
**Which tags the library writes.**

Styles and scripts are texts without tags. Markup has tags, but none of them closes a style. Both are read
off the literals of the library, one after the other.

* `openingTag`, `closingTag`: what begins and what ends a style in a document.
* `Definition.Untagged`, `untagged_of_mem`, `untagged_baseStyle`: names, styles and scripts of block types
  have no tags.
* `isFree_texts`, `isFree_render`: no markup of a block type closes a style, whatever texts it shows.
-/

import BlockPage.Page.Assets
import BlockPage.Proofs.Library.Contents
import BlockPage.Proofs.Text.Occurrences
import BlockPage.Proofs.Text.Parts

namespace BlockPage

open Text

/-! ### Tags -/

/-- The tag that begins a style. -/
def openingTag : Text := "<style>"

/-- What the tag that ends a style begins with. -/
def closingTag : Text := "</style"

/-- A text without tags opens no style. -/
theorem isFree_opening {text : Text} (untagged : CodePoint.lessThan ∉ text) :
    isFree openingTag text = true :=
  isFree_of_not_mem untagged

/-- A text without tags closes no style. -/
theorem isFree_closing {text : Text} (untagged : CodePoint.lessThan ∉ text) :
    isFree closingTag text = true :=
  isFree_of_not_mem untagged

/-- The only opening in the tag is at its beginning. -/
theorem isFree_openingTag : isFree closingTag openingTag = true := by decide

/-- The closing in the tag is the only one. -/
theorem occurrences_closingTag (behind : Text) :
    occurrences closingTag (closingTag ++ behind) = 1 + occurrences closingTag behind :=
  occurrences_pattern_append (by decide) (by decide) behind

/-! ### Texts without tags -/

theorem untagged_join {separator : Text} (between : CodePoint.lessThan ∉ separator) {parts : List Text}
    (each : ∀ part ∈ parts, CodePoint.lessThan ∉ part) : CodePoint.lessThan ∉ join separator parts := by
  intro inside
  rcases mem_of_mem_intercalate inside with separating | ⟨part, listed, inner⟩
  · exact between separating
  · exact each part listed inner

theorem untagged_append {left right : Text} (first : CodePoint.lessThan ∉ left)
    (second : CodePoint.lessThan ∉ right) : CodePoint.lessThan ∉ left ++ right :=
  fun inside => (List.mem_append.mp inside).elim first second

theorem untagged_lines {lines : List String}
    (each : ∀ line ∈ lines, CodePoint.lessThan ∉ ofString line) :
    CodePoint.lessThan ∉ join [CodePoint.newline] (lines.map ofString) :=
  untagged_join (by decide) (List.forall_mem_map.mpr each)

theorem untagged_strip {text : Text} (untagged : CodePoint.lessThan ∉ text) :
    CodePoint.lessThan ∉ strip text := fun inside => untagged (mem_of_mem_strip inside)

/-- The pieces of a text have no code points but its own. -/
theorem untagged_splitLoop {separator : Text} (text : Text) :
    ∀ {skipped : Nat} {piece : Text} {pieces : List Text}, CodePoint.lessThan ∉ text →
      CodePoint.lessThan ∉ piece → (∀ other ∈ pieces, CodePoint.lessThan ∉ other) →
      ∀ other ∈ splitLoop separator skipped piece pieces text, CodePoint.lessThan ∉ other := by
  have finished : ∀ {piece : Text} {pieces : List Text}, CodePoint.lessThan ∉ piece →
      (∀ other ∈ pieces, CodePoint.lessThan ∉ other) →
      ∀ other ∈ piece.reverse :: pieces, CodePoint.lessThan ∉ other := fun here before =>
    List.forall_mem_cons.mpr ⟨fun inside => here (List.mem_reverse.mp inside), before⟩
  induction text with
  | nil =>
    intro skipped piece pieces _ here before other inside
    rw [splitLoop] at inside
    exact finished here before other (List.mem_reverse.mp inside)
  | cons first rest ih =>
    intro skipped piece pieces absent here before
    rw [List.mem_cons, not_or] at absent
    cases skipped with
    | succ skipped => exact ih absent.2 here before
    | zero =>
      unfold splitLoop
      split
      · exact ih absent.2 List.not_mem_nil (finished here before)
      · exact ih absent.2 (List.not_mem_cons_of_ne_of_not_mem absent.1 here) before

theorem untagged_indent {text : Text} (untagged : CodePoint.lessThan ∉ text) (spaces : Nat) :
    CodePoint.lessThan ∉ indent text spaces := by
  refine untagged_join (by decide) (List.forall_mem_map.mpr fun line inside => ?_)
  have here := untagged_splitLoop text untagged List.not_mem_nil (List.forall_mem_nil _) line inside
  split
  · exact here
  · refine untagged_append (fun filling => ?_) here
    exact absurd (List.eq_of_mem_replicate filling) (by decide)

namespace Library

/-- A sheet of lines without tags has none. -/
theorem untagged_sheet {lines : List String}
    (each : ∀ line ∈ lines, CodePoint.lessThan ∉ ofString line) : CodePoint.lessThan ∉ sheet lines := by
  have newline : CodePoint.lessThan ∉ ofString "\n" := by decide
  simpa [sheet, concat, newline] using untagged_lines each

end Library

/-- Name, style and script of a block type have no tags. -/
structure Definition.Untagged (definition : Definition) : Prop where
  name : CodePoint.lessThan ∉ definition.name
  css : ∃ text, definition.css = .constant (.text text) ∧ CodePoint.lessThan ∉ text
  js : ∃ text, definition.js = .constant (.text text) ∧ CodePoint.lessThan ∉ text

namespace Library

section Literals

-- the characters of a long line are many nested constructors
set_option maxRecDepth 4000

theorem untagged_headingStyle : CodePoint.lessThan ∉ headingStyle := by
  refine untagged_sheet ?_
  repeat' first
    | exact List.forall_mem_nil _
    | refine List.forall_mem_cons.mpr ⟨not_mem_ofString rfl (by decide), ?_⟩

theorem untagged_baseStyle : CodePoint.lessThan ∉ baseStyle := by
  refine untagged_lines ?_
  repeat' first
    | exact List.forall_mem_nil _
    | refine List.forall_mem_cons.mpr ⟨not_mem_ofString rfl (by decide), ?_⟩

theorem untagged_headed {lines : List String}
    (each : ∀ line ∈ lines, CodePoint.lessThan ∉ ofString line) :
    CodePoint.lessThan ∉ headingStyle ++ sheet lines :=
  untagged_append untagged_headingStyle (untagged_sheet each)

theorem untagged_empty : ∃ text, Template.empty = .constant (.text text) ∧ CodePoint.lessThan ∉ text :=
  ⟨[], rfl, List.not_mem_nil⟩

/-- **No block type has a tag in its style or script.** -/
theorem untagged_of_mem : ∀ definition ∈ standard, definition.Untagged := by
  simp only [standard, List.forall_mem_cons]
  refine ⟨⟨?_, ⟨Navbar.style, rfl, untagged_sheet ?_⟩, ⟨Navbar.script, rfl, untagged_sheet ?_⟩⟩,
    ⟨?_, ⟨Footer.style, rfl, untagged_sheet ?_⟩, untagged_empty⟩,
    ⟨?_, ⟨GenericSection.style, rfl, untagged_sheet ?_⟩, untagged_empty⟩,
    ⟨?_, ⟨Hero.style, rfl, untagged_sheet ?_⟩, untagged_empty⟩,
    ⟨?_, ⟨Features.style, rfl, untagged_headed ?_⟩, untagged_empty⟩,
    ⟨?_, ⟨Pricing.style, rfl, untagged_headed ?_⟩, untagged_empty⟩,
    ⟨?_, ⟨Faq.style, rfl, untagged_headed ?_⟩, ⟨Faq.script, rfl, untagged_sheet ?_⟩⟩,
    ⟨?_, ⟨Testimonials.style, rfl, untagged_headed ?_⟩, untagged_empty⟩,
    ⟨?_, ⟨CallToAction.style, rfl, untagged_sheet ?_⟩, untagged_empty⟩,
    ⟨?_, ⟨Stats.style, rfl, untagged_sheet ?_⟩, untagged_empty⟩,
    ⟨?_, ⟨Cards.style, rfl, untagged_headed ?_⟩, untagged_empty⟩, List.forall_mem_nil _⟩
  -- names and lines are read character by character, each literal apart from all others
  all_goals
    repeat' first
      | exact not_mem_ofString rfl (by decide)
      | exact List.forall_mem_nil _
      | refine List.forall_mem_cons.mpr ⟨not_mem_ofString rfl (by decide), ?_⟩

end Literals

/-! ### Markup -/

/-- Markup is free of a pattern if its literals are, and texts as they are escaped. -/
theorem isFree_render {pattern : Text} {markup : Markup}
    (written : ∀ literal ∈ markup.literals, isFree pattern literal = true)
    (shown : ∀ text, isFree pattern (escape text) = true) : isFree pattern markup.render = true := by
  induction markup with
  | nil => rfl
  | cons piece rest ih =>
    show isFree pattern (piece.render ++ Markup.render rest) = true
    cases piece with
    | literal literal =>
      have here : literal ∈ Markup.literals (.literal literal :: rest) := .head _
      exact isFree_append (written literal here) (ih fun other inside => written other (.tail _ inside))
    | shown text => exact isFree_append (shown text) (ih written)

/-- A text that is shown closes no style. -/
theorem isFree_escape (text : Text) : isFree closingTag (escape text) = true :=
  isFree_closing (mark_not_mem_escape (by decide) text)

/-- The literals of a drawing are pieces of those of a view with everything. -/
theorem isFree_ofView {pattern : Text} {definition : Definition} {uses : List (Text × Use)} {View : Type}
    {read : Entries → Except Problem View} {markup : View → Markup} {full : View}
    (each : ∀ literal ∈ (markup full).literals, isFree pattern literal = true) :
    ∀ literal ∈ (Drawing.ofView definition uses read markup full).texts,
      isFree pattern literal = true := by
  show ∀ literal ∈ (markup full).trimmed.literals, _
  match markup full, each with
  | [], _ => exact List.forall_mem_nil _
  | .shown _ :: _, each => exact each
  | .literal first :: rest, each =>
    intro literal inside
    rcases List.mem_cons.mp inside with rfl | behind
    · exact isFree_drop (each first (.head _)) 1
    · exact each literal (.tail _ behind)

set_option maxRecDepth 4000 in
/-- No literal of a template closes a style. -/
theorem isFree_texts : ∀ drawing ∈ drawings, ∀ literal ∈ drawing.texts,
    isFree closingTag literal = true := by
  repeat' first
    | exact List.forall_mem_nil _
    | refine List.forall_mem_cons.mpr ⟨isFree_ofView ?_, ?_⟩
    | refine List.forall_mem_cons.mpr ⟨isFree_ofString rfl (by decide), ?_⟩

end Library

end BlockPage
