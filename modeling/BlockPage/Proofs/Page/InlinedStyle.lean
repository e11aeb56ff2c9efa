/-
**What the inlined style of a document holds.**

The style of a page stands in its document as it is. Nothing of the library closes it, and the colours of a
theme cannot; but the background and the text colour of light pages and the width of the contents are any
texts, and each closing in one of them is one in the document.

* `strayClosings`: the closings that a theme and page settings bring along.
* `occurrences_compileStyle`: they are all that the style has.
* `styleElement?`: what the style of a document holds, up to the first closing.
* `preview_style`: the document has one closing more, and its style is held whole just when there is no
  stray one; `preview_style_closed`: a background that closes the style.
-/

import BlockPage.Proofs.Library.Tags
import BlockPage.Proofs.Page.Escaping
import BlockPage.Proofs.Page.FirstOccurrences
import BlockPage.Proofs.Theme.Channels

namespace BlockPage

open Library Text

/-! ### Closings in the style -/

/-- The closings in the free texts of a theme that its tokens show. -/
def Theme.closings (theme : Theme) : Nat :=
  theme.mode.pick (occurrences closingTag theme.background + occurrences closingTag theme.text) 0

/-- The closings in the free texts of a theme and of page settings. -/
def strayClosings (theme : Theme) (page : PageSettings) : Nat :=
  theme.closings + occurrences closingTag page.maxWidth

/-- No closing reaches across a code point that the tag does not have. -/
theorem closings_separated {point : CodePoint} (foreign : point ∉ closingTag) (left right : Text) :
    occurrences closingTag (left ++ point :: right) =
      occurrences closingTag left + occurrences closingTag right :=
  occurrences_separated foreign (by decide) left right

theorem closings_of_untagged {text : Text} (untagged : CodePoint.lessThan ∉ text) :
    occurrences closingTag text = 0 :=
  occurrences_of_isFree (isFree_closing untagged)

/-- Colours are written with a sign and digits only. -/
theorem untagged_colour (colour : Colour) : CodePoint.lessThan ∉ colour.text := by
  obtain ⟨text, valid⟩ := colour
  unfold isColour at valid
  split at valid
  · simp only [Bool.and_eq_true, List.all_eq_true] at valid
    refine List.not_mem_cons_of_ne_of_not_mem (by decide) fun inside => ?_
    exact absurd (valid.2 _ inside) (by decide)
  · cases valid

theorem untagged_shade (colour : Colour) (shading : Binary64 → Int → Binary64) (percent : Nat) :
    CodePoint.lessThan ∉
      Theme.shade colour (fun text percent => Rgb.mapChannels text percent shading) percent := by
  show CodePoint.lessThan ∉
    ((Rgb.mapChannels colour.text (.integer percent) shading).toOption).getD colour.text
  cases shaded : Rgb.mapChannels colour.text (.integer percent) shading with
  | error problem => exact untagged_colour colour
  | ok text =>
    obtain ⟨rgb, _, shaded⟩ := bind_eq_ok_iff.mp shaded
    obtain ⟨part, _, shaded⟩ := bind_eq_ok_iff.mp shaded
    obtain ⟨channels, _, shaded⟩ := bind_eq_ok_iff.mp shaded
    cases shaded
    -- what is written for channels is a colour again
    exact untagged_colour ⟨channels.toText, Rgb.isColour_iff.mpr ⟨_, Rgb.denotes_toText channels⟩⟩

theorem occurrences_tokenLine {token : Text × Text} (name : CodePoint.lessThan ∉ token.1) :
    occurrences closingTag (Theme.tokenLine token) = occurrences closingTag token.2 := by
  have shape : Theme.tokenLine token =
      (ofString "  --" ++ token.1 ++ ofString ": ") ++ (token.2 ++ CodePoint.semicolon :: []) := by
    simp [Theme.tokenLine, concat, ofString]
  have front : CodePoint.lessThan ∉ ofString "  --" ++ token.1 ++ ofString ": " :=
    untagged_append (untagged_append (by decide) name) (by decide)
  rw [shape, occurrences_append (isFree_closing front), closings_separated (by decide), occurrences,
    Nat.add_zero]

/-- Of the tokens, only the background and the text colour can close the style. -/
theorem occurrences_tokens (theme : Theme) :
    occurrencesIn closingTag (theme.tokens.map Theme.tokenLine) = theme.closings := by
  have names : ∀ token ∈ theme.tokens, CodePoint.lessThan ∉ token.1 := by
    simp only [Theme.tokens, List.forall_mem_cons]
    refine ⟨?_, ?_, ?_, ?_, ?_, ?_, ?_, ?_, ?_, ?_, ?_, List.forall_mem_nil _⟩ <;> decide
  have primary := closings_of_untagged (untagged_colour theme.primary)
  have accent := closings_of_untagged (untagged_colour theme.secondary)
  have darker : occurrences closingTag (Theme.shade theme.primary Rgb.darken 15) = 0 :=
    closings_of_untagged (untagged_shade theme.primary Rgb.darkenChannel 15)
  have lighter : occurrences closingTag (Theme.shade theme.primary Rgb.lighten 45) = 0 :=
    closings_of_untagged (untagged_shade theme.primary Rgb.lightenChannel 45)
  have radius : occurrences closingTag theme.radius.size = 0 := by
    cases theme.radius <;> decide
  have fonts : occurrences closingTag theme.font.stack = 0 := by
    cases theme.font <;> decide
  have fixed : ∀ value ∈ [ofString "#0F172A", "#FFFFFF", "#1E293B", "#E2E8F0", "#334155", "#F1F5F9",
      "#64748B", "#94A3B8"], occurrences closingTag value = 0 := by
    decide
  simp only [List.forall_mem_cons] at fixed
  rw [occurrencesIn_map_congr fun token inside => occurrences_tokenLine (names token inside)]
  simp only [Theme.tokens, List.map_cons, List.map_nil, occurrencesIn, primary, darker, lighter, accent,
    radius, fonts, Theme.closings]
  cases theme.mode <;> simp [Theme.Mode.pick, fixed]

/-- The rules of a theme hold the closing tags of the values that have no pattern. -/
theorem occurrences_stylesheet (theme : Theme) :
    occurrences closingTag theme.stylesheet = theme.closings := by
  have shape : theme.stylesheet = ofString ":root \x7b\n" ++
      (join [CodePoint.newline] (theme.tokens.map Theme.tokenLine) ++
        CodePoint.newline :: ofString "\x7d") := by
    simp [Theme.stylesheet, concat, ofString]
  rw [shape, occurrences_append (by decide), closings_separated (by decide),
    occurrences_join (by decide) (by decide), occurrences_tokens]
  rfl

/-! ### Fragments -/

/-- The style and the script of a standard type hold no angle. -/
theorem untagged_of_lookup? {typeId : Text} {definition : Definition}
    (found : Registry.standard.lookup? typeId = some definition) : definition.Untagged :=
  untagged_of_mem definition (List.mem_of_find?_eq_some found)

/-- What is given of an outcome is what it produced without blanks around it. -/
theorem untagged_given? {text given : Text} (untagged : CodePoint.lessThan ∉ text)
    (same : (Outcome.produced (.text text)).given? = some given) : CodePoint.lessThan ∉ given := by
  obtain ⟨stripped, _⟩ := Option.filter_eq_some_iff.mp same
  obtain rfl : strip text = given := Option.some.inj stripped
  exact untagged_strip untagged

/-- The styles of standard types hold no angle, their banners included. -/
theorem untagged_style? {block : Block} {style : Text}
    (given : Registry.standard.style? block = some style) : CodePoint.lessThan ∉ style := by
  obtain ⟨definition, found, styled⟩ := Option.bind_eq_some_iff.mp given
  obtain ⟨text, written, rfl⟩ := Option.map_eq_some_iff.mp styled
  obtain ⟨name, ⟨css, same, untagged⟩, _⟩ := untagged_of_lookup? found
  rw [Block.outcome, Definition.render, Definition.template, same] at written
  rw [← bannered_eq]
  have banner : CodePoint.lessThan ∉ styleBanner definition.name := by
    have start : CodePoint.lessThan ∉ ofString "/* --- " := by decide
    have stop : CodePoint.lessThan ∉ ofString " --- */" := by decide
    simp [styleBanner, concat, start, stop, name]
  exact untagged_append banner
    (List.not_mem_cons_of_ne_of_not_mem (by decide) (untagged_given? untagged written))

theorem untagged_script? {block : Block} {script : Text}
    (given : Registry.standard.script? block = some script) : CodePoint.lessThan ∉ script := by
  obtain ⟨definition, found, written⟩ := Option.bind_eq_some_iff.mp given
  obtain ⟨_, _, js, same, untagged⟩ := untagged_of_lookup? found
  rw [Block.outcome, Definition.render, Definition.template, same] at written
  exact untagged_given? untagged written

section Tree

variable (settings : Settings) (blocks : List Block)

theorem untagged_css : ∀ style ∈ (standardTree settings blocks).css, CodePoint.lessThan ∉ style := by
  refine List.forall_mem_cons.mpr ⟨untagged_baseStyle, ?_⟩
  rw [css_contributions]
  intro style inside
  obtain ⟨entry, _, given⟩ := List.mem_filterMap.mp inside
  exact untagged_style? given

theorem untagged_js : ∀ script ∈ (standardTree settings blocks).js, CodePoint.lessThan ∉ script := by
  show ∀ script ∈ (contributionsFrom Registry.standard 0 [] blocks).flatMap Contribution.js, _
  rw [js_contributions]
  intro script inside
  obtain ⟨entry, _, given⟩ := List.mem_filterMap.mp inside
  exact untagged_script? given

end Tree

/-! ### The style -/

theorem occurrences_contentWidth (page : PageSettings) :
    occurrences closingTag (contentWidth page) = occurrences closingTag page.maxWidth := by
  unfold contentWidth
  split
  · next empty =>
    rw [List.isEmpty_iff.mp empty]
    decide
  · rfl

/-- The lines of a style above those of the blocks. -/
def styleHead (theme : Theme) (page : PageSettings) : List Text :=
  [ofString "/* === pagecraft - Generated Stylesheet === */", [],
    "/* 1. Design Tokens & Theme */", theme.stylesheet,
    concat [":root \x7b --max-w: ", contentWidth page, "; \x7d"], [], "/* 2. Block Styles */"]

/-- The rules for small screens. -/
def responsiveStyle : Text := ofLines (responsiveLines.map ofString)

theorem untagged_responsiveStyle : CodePoint.lessThan ∉ responsiveStyle := by
  refine untagged_lines ?_
  repeat' first
    | exact List.forall_mem_nil _
    | refine List.forall_mem_cons.mpr ⟨not_mem_ofString rfl (by decide), ?_⟩

/-- All stray closing tags stand in the rules of the theme and of the page. -/
theorem occurrences_styleHead (theme : Theme) (page : PageSettings) :
    occurrencesIn closingTag (styleHead theme page) = strayClosings theme page := by
  have width : occurrences closingTag (concat [":root \x7b --max-w: ", contentWidth page, "; \x7d"]) =
      occurrences closingTag page.maxWidth := by
    have shape : concat [":root \x7b --max-w: ", contentWidth page, "; \x7d"] =
        ofString ":root \x7b --max-w: " ++ (contentWidth page ++ CodePoint.semicolon :: ofString " \x7d") := by
      simp [concat, ofString]
    rw [shape, occurrences_append (by decide), closings_separated (by decide), occurrences_contentWidth]
    rfl
  have title : CodePoint.lessThan ∉ ofString "/* === pagecraft - Generated Stylesheet === */" :=
    not_mem_ofString rfl (by decide)
  have tokens : CodePoint.lessThan ∉ ofString "/* 1. Design Tokens & Theme */" :=
    not_mem_ofString rfl (by decide)
  have styles : CodePoint.lessThan ∉ ofString "/* 2. Block Styles */" :=
    not_mem_ofString rfl (by decide)
  rw [styleHead, occurrencesIn, closings_of_untagged title, occurrencesIn, occurrencesIn,
    closings_of_untagged tokens, occurrencesIn, occurrences_stylesheet, occurrencesIn, width, occurrencesIn,
    occurrencesIn, closings_of_untagged styles]
  simp [strayClosings, occurrences, occurrencesIn]

/-- The lines of a style below those of the blocks. -/
def styleTail : List Text := [[], "/* 3. Responsive */", responsiveStyle]

theorem occurrences_styleTail : occurrencesIn closingTag styleTail = 0 := by
  have title : CodePoint.lessThan ∉ ofString "/* 3. Responsive */" := not_mem_ofString rfl (by decide)
  refine occurrencesIn_eq_zero ?_
  simp only [styleTail, List.forall_mem_cons]
  exact ⟨rfl, isFree_closing title, isFree_closing untagged_responsiveStyle, List.forall_mem_nil _⟩

/-- The sheet: the rules of theme and page, the styles of blocks, the fixed rules. -/
theorem compileStyle_eq (tree : RenderTree) (theme : Theme) (page : PageSettings) :
    compileStyle tree theme page =
      join [CodePoint.newline] (styleHead theme page ++ tree.css ++ styleTail) := rfl

/-- **The stray closings are all that the style of a page has.** -/
theorem occurrences_compileStyle {tree : RenderTree}
    (untagged : ∀ style ∈ tree.css, CodePoint.lessThan ∉ style) (theme : Theme) (page : PageSettings) :
    occurrences closingTag (compileStyle tree theme page) = strayClosings theme page := by
  have fragments : occurrencesIn closingTag tree.css = 0 :=
    occurrencesIn_eq_zero fun style inside => isFree_closing (untagged style inside)
  rw [compileStyle_eq, occurrences_join (by decide) (by decide), occurrencesIn_append, occurrencesIn_append,
    occurrences_styleHead, fragments, occurrences_styleTail, Nat.add_zero]

theorem exists_join_concat (separator : Text) (parts : List Text) (last : Text) :
    ∃ front, join separator (parts ++ [last]) = front ++ last := by
  by_cases nothing : parts = []
  · exact ⟨[], by simp [nothing, join]⟩
  · exact ⟨join separator parts ++ separator, by rw [join_concat separator nothing, List.append_assoc]⟩

/-- The last rule of a style is closed. -/
theorem exists_compileStyle_concat (tree : RenderTree) (theme : Theme) (page : PageSettings) :
    ∃ front, compileStyle tree theme page = front ++ [CodePoint.closeBrace] := by
  obtain ⟨rules, ends⟩ := exists_join_concat [CodePoint.newline]
    ((responsiveLines.dropLast).map ofString) [CodePoint.closeBrace]
  have responsive : responsiveStyle = rules ++ [CodePoint.closeBrace] := ends
  obtain ⟨front, same⟩ := exists_join_concat [CodePoint.newline]
    (styleHead theme page ++ tree.css ++ [[], "/* 3. Responsive */"]) responsiveStyle
  refine ⟨front ++ rules, ?_⟩
  rw [List.append_assoc, ← responsive, ← same, List.append_assoc (styleHead theme page ++ tree.css)]
  rfl

/-! ### The document -/

/-- The document before the style. -/
def beforeStyle (titles : Titles) (theme : Theme) (page : PageSettings) : Text :=
  documentHead titles theme page ++ ofString "  "

/-- The document behind the closing tag of the style. -/
def behindStyle (tree : RenderTree) (page : PageSettings) (script : Text) : Text :=
  concat [">\n", documentMiddle tree page, script, documentTail]

/-- A document with its sheet inside: what is in front of the style element, the sheet, what is behind it. -/
theorem document_inlined (titles : Titles) (tree : RenderTree) (theme : Theme) (page : PageSettings)
    (css js : Text) : document titles tree theme page (.inlined css js) =
      beforeStyle titles theme page ++ openingTag ++ css ++ closingTag ++
        behindStyle tree page (Assets.inlined css js).scriptLine := by
  have opening : ofString "  <style>" = ofString "  " ++ openingTag := rfl
  have closing : ofString "</style>\n" = closingTag ++ ofString ">\n" := rfl
  simp [document, beforeStyle, behindStyle, Assets.styleLine, concat, opening, closing]

/-- Nothing before the style opens or closes one. -/
theorem isFree_beforeStyle {pattern : Text} (tag : pattern ∈ [openingTag, closingTag]) (titles : Titles)
    (theme : Theme) (page : PageSettings) : isFree pattern (beforeStyle titles theme page) = true := by
  have escaped : ∀ text, isFree pattern (escape text) = true := by
    intro text
    have untagged : CodePoint.lessThan ∉ escape text := mark_not_mem_escape (by decide) text
    rcases List.mem_cons.mp tag with rfl | last
    · exact isFree_opening untagged
    · rw [List.mem_singleton.mp last]
      exact isFree_closing untagged
  rw [List.mem_cons, List.mem_singleton] at tag
  rcases tag with rfl | rfl
  all_goals
    refine isFree_append (isFree_concat ?_) (by decide)
    repeat' first
      | exact List.forall_mem_nil _
      | refine List.forall_mem_cons.mpr ⟨escaped _, ?_⟩
      | refine List.forall_mem_cons.mpr ⟨isFree_ofString rfl (by decide), ?_⟩

/-- Nothing in the markup of a block closes a style. -/
theorem isFree_picture {block : Block} {markup : Markup} (inside : markup ∈ pictures block) :
    isFree closingTag markup.render = true := by
  refine isFree_render (fun literal listed => ?_) isFree_escape
  obtain ⟨drawing, drawn, text⟩ := List.mem_flatMap.mp (literals_picture_subset inside listed)
  exact isFree_texts drawing drawn literal text

section Document

variable (settings : Settings) (blocks : List Block) (theme : Theme) (page : PageSettings)

/-- Between the head and the scripts no style element ends: the values of blocks are escaped. -/
theorem isFree_documentMiddle :
    isFree closingTag (documentMiddle (standardTree settings blocks) page) = true := by
  have offset : isFree closingTag (navigationOffset page) = true := by
    unfold navigationOffset
    split
    · rfl
    · exact isFree_closing (not_mem_ofString rfl (by decide))
  have body : isFree closingTag (documentBody (standardTree settings blocks)) = true := by
    have html : (standardTree settings blocks).html = (blocks.flatMap pictures).map Markup.render :=
      html_standard blocks 0 []
    rw [documentBody, html]
    refine isFree_join (by decide) (List.forall_mem_map.mpr fun markup inside => ?_)
    obtain ⟨block, _, drawn⟩ := List.mem_flatMap.mp inside
    exact isFree_picture drawn
  have start : isFree closingTag (ofString "</head>\n<body") = true :=
    isFree_ofString rfl (by decide)
  refine isFree_concat ?_
  simp only [List.forall_mem_cons]
  exact ⟨start, offset, by decide, body, by decide, List.forall_mem_nil _⟩

set_option maxRecDepth 4000 in
theorem untagged_revealLines : CodePoint.lessThan ∉ ofLines (revealLines.map ofString) := by
  refine untagged_lines ?_
  repeat' first
    | exact List.forall_mem_nil _
    | refine List.forall_mem_cons.mpr ⟨not_mem_ofString rfl (by decide), ?_⟩

/-- The script of a page has no tags. -/
theorem untagged_compileScript :
    CodePoint.lessThan ∉ compileScript (standardTree settings blocks) page := by
  have literal : ∀ line ∈ ["/* No JavaScript required for this layout. */",
      "/* === pagecraft - Generated Script === */", "'use strict';", "// Initialise components",
      "document.addEventListener(\"DOMContentLoaded\", () => \x7b", "\x7d);"],
      CodePoint.lessThan ∉ ofString line := by
    repeat' first
      | exact List.forall_mem_nil _
      | refine List.forall_mem_cons.mpr ⟨not_mem_ofString rfl (by decide), ?_⟩
  simp only [List.forall_mem_cons] at literal
  obtain ⟨remark, title, strict, start, listen, stop, -⟩ := literal
  have empty : CodePoint.lessThan ∉ ([] : Text) := List.not_mem_nil
  unfold compileScript
  split
  · exact remark
  · refine untagged_join (by decide) ?_
    simp only [List.forall_mem_append, List.forall_mem_cons, List.forall_mem_map]
    refine ⟨⟨⟨title, strict, empty, start, listen, empty, List.forall_mem_nil _⟩, ?_⟩,
      empty, ?_, empty, stop, List.forall_mem_nil _⟩
    · exact fun script inside => untagged_indent (untagged_js settings blocks script inside) 2
    · split
      · exact untagged_indent untagged_revealLines 2
      · exact empty

theorem isFree_scriptLine {js : Text} (untagged : CodePoint.lessThan ∉ js) (css : Text) :
    isFree closingTag (Assets.inlined css js).scriptLine = true := by
  unfold Assets.scriptLine
  split
  · rfl
  · rfl
  · next same =>
    cases same
    have start : isFree closingTag (ofString "  <script>") = true := by decide
    have stop : isFree closingTag (ofString "</script>\n") = true := by decide
    refine isFree_concat ?_
    simp only [List.forall_mem_cons]
    exact ⟨start, isFree_closing untagged, stop, List.forall_mem_nil _⟩

/-- Nothing behind the style element ends one. -/
theorem isFree_behindStyle {js : Text} (untagged : CodePoint.lessThan ∉ js) (css : Text) :
    isFree closingTag (behindStyle (standardTree settings blocks) page
      (Assets.inlined css js).scriptLine) = true := by
  have tail : isFree closingTag documentTail = true := isFree_ofString rfl (by decide)
  refine isFree_concat ?_
  simp only [List.forall_mem_cons]
  exact ⟨by decide, isFree_documentMiddle settings blocks page, isFree_scriptLine untagged css, tail,
    List.forall_mem_nil _⟩

/-- **The document around the style.** -/
theorem exists_compilePreview_split : ∃ behind, isFree closingTag behind = true ∧
    compilePreview settings.titles (standardTree settings blocks) theme page =
      beforeStyle settings.titles theme page ++ openingTag ++
        compileStyle (standardTree settings blocks) theme page ++ closingTag ++ behind := by
  refine ⟨_, isFree_behindStyle settings blocks page ?_ _, document_inlined _ _ _ _ _ _⟩
  split
  · exact List.not_mem_nil
  · exact untagged_compileScript settings blocks page

end Document

/-! ### What a style holds -/

/-- What the style of a document holds: the text between the first opening and the next closing. -/
def styleElement? (document : Text) : Option Text :=
  (document.dropInfix? openingTag).bind fun opened => (opened.2.dropInfix? closingTag).map Prod.fst

section Split

variable {before css behind : Text}

/-- **The style element is the sheet exactly when the sheet holds no closing tag.** It ends in a brace, so
that no tag begins in it and ends behind it. -/
theorem styleElement?_eq_some_iff (opens : isFree openingTag before = true)
    (ends : ∃ front, css = front ++ [CodePoint.closeBrace]) :
    styleElement? (before ++ openingTag ++ css ++ closingTag ++ behind) = some css ↔
      occurrences closingTag css = 0 := by
  have found : (before ++ openingTag ++ css ++ closingTag ++ behind).dropInfix? openingTag =
      some (before, css ++ closingTag ++ behind) := by
    rw [List.append_assoc _ css, List.append_assoc _ (css ++ closingTag)]
    exact dropInfix?_of_isFree opens _
  have content : styleElement? (before ++ openingTag ++ css ++ closingTag ++ behind) =
      ((css ++ closingTag ++ behind).dropInfix? closingTag).map Prod.fst := by
    rw [styleElement?, found, Option.bind_some]
  rw [content, Option.map_eq_some_iff]
  constructor
  · rintro ⟨⟨front, rest⟩, closed, rfl⟩
    exact (occurrences_eq_zero_iff (by decide)).mpr (not_infix_of_dropInfix? (by decide) closed)
  · intro absent
    obtain ⟨front, rfl⟩ := ends
    rw [closings_separated (by decide)] at absent
    have free : isFree closingTag (front ++ [CodePoint.closeBrace]) = true :=
      isFree_concat_point (by decide) (by decide) absent
    exact ⟨_, dropInfix?_of_isFree free behind, rfl⟩

/-- Closing tags of a document are its own one and those of the sheet. -/
theorem closings_split (opens : isFree closingTag before = true)
    (ends : ∃ front, css = front ++ [CodePoint.closeBrace]) (closes : isFree closingTag behind = true) :
    occurrences closingTag (before ++ openingTag ++ css ++ closingTag ++ behind) =
      1 + occurrences closingTag css := by
  obtain ⟨front, rfl⟩ := ends
  have shape : before ++ openingTag ++ (front ++ [CodePoint.closeBrace]) ++ closingTag ++ behind =
      before ++ openingTag ++ (front ++ CodePoint.closeBrace :: (closingTag ++ behind)) := by
    simp
  rw [shape, occurrences_append (isFree_append opens isFree_openingTag), closings_separated (by decide),
    closings_separated (by decide), occurrences_closingTag, occurrences_of_isFree closes]
  simp [occurrences, Nat.add_comm]

end Split

section Preview

variable (settings : Settings) (blocks : List Block) (theme : Theme) (page : PageSettings)

theorem closings_preview :
    occurrences closingTag (compilePreview settings.titles (standardTree settings blocks) theme page) =
      1 + strayClosings theme page := by
  obtain ⟨behind, closes, split⟩ := exists_compilePreview_split settings blocks theme page
  have opens := isFree_beforeStyle (.tail _ (.head _)) settings.titles theme page
  rw [split, closings_split opens (exists_compileStyle_concat _ _ _) closes,
    occurrences_compileStyle (untagged_css settings blocks)]

/-- The style of a preview is read back as it was compiled exactly when there are no stray tags. -/
theorem styleElement?_preview :
    styleElement? (compilePreview settings.titles (standardTree settings blocks) theme page) =
      some (compileStyle (standardTree settings blocks) theme page) ↔ strayClosings theme page = 0 := by
  obtain ⟨behind, _, split⟩ := exists_compilePreview_split settings blocks theme page
  have opens := isFree_beforeStyle (.head _) settings.titles theme page
  rw [split, styleElement?_eq_some_iff opens (exists_compileStyle_concat _ _ _),
    occurrences_compileStyle (untagged_css settings blocks)]

/-- **Only the free texts of a theme and of page settings close the style of a document.** The document of
checked blocks holds the style that is generated for them between its two tags, and closes no style before
or behind it. Besides the tag it has the closings in the background and the text colour of a light theme and
in the width of the contents. A reader of the document finds the whole style, and nothing else, just when
there are none of these. -/
theorem preview_style (extras : List (Text × Value)) :
    ∃ generation document before behind,
      Generator.generate ⟨Registry.standard, settings⟩ (.list (blocks.map .block)) (.theme theme)
        (.pageSettings page extras) = .ok generation ∧
      Generator.preview ⟨Registry.standard, settings⟩ (.list (blocks.map .block)) (.theme theme)
        (.pageSettings page extras) = .ok document ∧
      document = before ++ openingTag ++ generation.output.css ++ closingTag ++ behind ∧
      occurrences closingTag before = 0 ∧ occurrences closingTag behind = 0 ∧
      occurrences closingTag document = 1 + strayClosings theme page ∧
      (styleElement? document = some generation.output.css ↔ strayClosings theme page = 0) := by
  obtain ⟨behind, closes, split⟩ := exists_compilePreview_split settings blocks theme page
  have opens := isFree_beforeStyle (.tail _ (.head _)) settings.titles theme page
  exact ⟨_, _, _, behind, generate_blocks settings blocks theme page extras,
    preview_blocks settings blocks theme page extras, split, occurrences_of_isFree opens,
    occurrences_of_isFree closes, closings_preview settings blocks theme page,
    styleElement?_preview settings blocks theme page⟩

end Preview

/-- A theme whose background is the tag that ends a style. -/
def closingTheme : Theme := { background := "</style>" }

/-- A background closes the style, which then ends before its rules do. -/
theorem preview_style_closed : ∃ generation document,
    Generator.generate ⟨Registry.standard, {}⟩ (.list []) (.theme closingTheme) (.pageSettings {} []) =
      .ok generation ∧
    Generator.preview ⟨Registry.standard, {}⟩ (.list []) (.theme closingTheme) (.pageSettings {} []) =
      .ok document ∧
    occurrences closingTag document = 2 ∧ styleElement? document ≠ some generation.output.css := by
  have stray : strayClosings closingTheme {} = 1 := by decide
  refine ⟨_, _, generate_blocks {} [] closingTheme {} [], preview_blocks {} [] closingTheme {} [], ?_, ?_⟩
  · rw [closings_preview, stray]
  · intro whole
    have closed := (styleElement?_preview {} [] closingTheme {}).mp whole
    rw [stray] at closed
    cases closed

end BlockPage
