/-
**No text injects markup.**

The document of a page is written from literals of its shell and of the templates, and from texts, which
are escaped. So the marks that begin and end elements and attribute values stand where the literals have
them, and how many there are depends on little of what a page says.

* `documentMarkup`, `render_documentMarkup`: the document as pieces.
* `templateTexts`, `literals_pageMarkup_subset`: the literals of a page are among those of the shell and of
  the templates.
* `Block.SameShape`, `literals_pageMarkup_congr`: pages of blocks that decide alike have the same literals.
* `generate_escaped`: both for every page of checked blocks.
-/

import BlockPage.Proofs.Page.StandardPages

namespace BlockPage

open Library

/-! ### The shell -/

/-- The document of a page around the markup of its blocks. -/
def documentMarkup (titles : Titles) (theme : Theme) (page : PageSettings) (body : List Markup) :
    Markup := Markup.concat
  ["<!DOCTYPE html>\n<html lang=\"en\" data-theme=\"", .shown theme.mode.word,
    "\">\n<head>\n  <meta charset=\"UTF-8\">\n",
    "  <meta name=\"viewport\" content=\"width=device-width, initial-scale=1.0\">\n",
    "  <meta name=\"description\" content=\"", .shown (filled page.description titles.description),
    "\">\n  <title>", .shown (filled page.title titles.title), "</title>\n",
    "  <link rel=\"stylesheet\" href=\"styles.css\">\n", "</head>\n<body",
    .when (page.navbar ≠ Text.ofString "none") " style=\"padding-top: 64px;\"", ">\n\n",
    ([.literal "\n\n"] : Markup).intercalate body, "\n\n",
    "  <script defer src=\"script.js\"></script>\n", "</body>\n</html>"]

/-- A document is its markup with the values escaped into it. -/
theorem render_documentMarkup (titles : Titles) (theme : Theme) (page : PageSettings)
    {tree : RenderTree} {body : List Markup} (same : tree.html = body.map Markup.render) :
    (documentMarkup titles theme page body).render = document titles tree theme page .linked := by
  have inner : Markup.render (([.literal "\n\n"] : Markup).intercalate body) =
      Text.join "\n\n" tree.html := by
    rw [Markup.render_intercalate, same]
    rfl
  have offset : Markup.render (.when (page.navbar ≠ Text.ofString "none") " style=\"padding-top: 64px;\"") =
      navigationOffset page := by
    unfold Markup.when navigationOffset
    by_cases hidden : page.navbar = Text.ofString "none" <;> simp [hidden, Markup.render, Piece.render]
  rw [documentMarkup, Markup.render_concat]
  simp only [List.map_cons, List.map_nil, inner, offset]
  simp [document, documentHead, documentMiddle, documentBody, documentTail, Assets.styleLine,
    Assets.scriptLine, Text.concat, Markup.render, Markup.shown, Piece.render]

/-! ### The literals of a page -/

/-- The literals of the shell. -/
def shellTexts : List Text := (documentMarkup {} {} {} []).literals

/-- The literals of the shell and of the templates. -/
def templateTexts : List Text := shellTexts ++ drawings.flatMap Drawing.texts

/-- The literals of a document are those of the shell and of what stands in it. -/
theorem mem_literals_documentMarkup {titles : Titles} {theme : Theme} {page : PageSettings}
    {body : List Markup} {written : Text}
    (inside : written ∈ (documentMarkup titles theme page body).literals) :
    written ∈ shellTexts ∨ ∃ markup ∈ body, written ∈ markup.literals := by
  have sticky : ({} : PageSettings).navbar ≠ Text.ofString "none" := by decide
  have between : written ∈ List.intercalate [Text.ofString "\n\n"] (body.map Markup.literals) →
      written = Text.ofString "\n\n" ∨ ∃ markup ∈ body, written ∈ markup.literals := by
    intro inner
    rcases mem_of_mem_intercalate inner with separator | ⟨part, listed, inner⟩
    · exact .inl (List.mem_singleton.mp separator)
    · obtain ⟨markup, inBody, rfl⟩ := List.mem_map.mp listed
      exact .inr ⟨markup, inBody, inner⟩
  simp [documentMarkup, shellTexts, Markup.literals_intercalate, sticky] at inside ⊢
  grind

/-- The document of a page of checked blocks as pieces. -/
def pageMarkup (titles : Titles) (theme : Theme) (page : PageSettings) (blocks : List Block) : Markup :=
  documentMarkup titles theme page (blocks.flatMap pictures)

/-- Every page of checked blocks is generated, and its document is written from these pieces. -/
theorem generate_pageMarkup (settings : Settings) (theme : Theme) (page : PageSettings)
    (extras : List (Text × Value)) (blocks : List Block) :
    ∃ generation, Generator.generate ⟨Registry.standard, settings⟩ (.list (blocks.map .block))
        (.theme theme) (.pageSettings page extras) = .ok generation ∧
      generation.output.html = (pageMarkup settings.titles theme page blocks).render := by
  obtain ⟨generation, generated, output, _⟩ := generate_standard settings blocks theme page extras
  have html : (standardTree settings blocks).html = (blocks.flatMap pictures).map Markup.render :=
    html_standard blocks 0 []
  refine ⟨generation, generated, ?_⟩
  rw [output, pageMarkup, render_documentMarkup settings.titles theme page html]
  rfl

/-- The markup that stands around values is that of the library. -/
theorem literals_picture_subset {block : Block} {markup : Markup} (inside : markup ∈ pictures block) :
    markup.literals ⊆ drawings.flatMap Drawing.texts := by
  rcases pictures_cases block with unseen | ⟨drawing, drawn, found, same, seen⟩
  · rw [unseen] at inside
    cases inside
  · rw [seen] at inside
    rw [List.mem_singleton.mp inside]
    have texts := (isSound_of_drawingOf? found).inside _ _ same
    have listed : drawing ∈ drawings := List.mem_of_find?_eq_some found
    exact fun written here => List.mem_flatMap.mpr ⟨drawing, listed, texts here⟩

/-- Every literal of a page is one of the shell or of a template. -/
theorem literals_pageMarkup_subset (titles : Titles) (theme : Theme) (page : PageSettings)
    (blocks : List Block) : (pageMarkup titles theme page blocks).literals ⊆ templateTexts := by
  intro written inside
  rcases mem_literals_documentMarkup inside with shell | ⟨markup, listed, inner⟩
  · exact List.mem_append_left _ shell
  · obtain ⟨block, _, listed⟩ := List.mem_flatMap.mp listed
    exact List.mem_append_right _ (literals_picture_subset listed inner)

/-! ### Pages that decide alike -/

/-- Two blocks of one type say different things in the same places: where a template asks something of
their values, it gets the same answer. -/
def Block.SameShape (left right : Block) : Prop :=
  left.typeId = right.typeId ∧ ∀ drawing, drawingOf? left.typeId = some drawing →
    AlikeUnder drawing.uses (left.drawn drawing) (right.drawn drawing)

/-- Blocks of the same shape have the same markup around their values. -/
theorem literals_pictures_congr {left right : Block} (same : left.SameShape right) :
    (pictures left).map Markup.literals = (pictures right).map Markup.literals := by
  obtain ⟨typeId, alike⟩ := same
  unfold pictures
  rw [← typeId]
  cases found : drawingOf? left.typeId with
  | none => rfl
  | some drawing =>
    have sound := isSound_of_drawingOf? found
    have agree := sound.alike _ _ (alike drawing found)
    dsimp only
    cases first : drawing.draw (left.drawn drawing) with
    | error problem =>
      cases second : drawing.draw (right.drawn drawing) with
      | error other => rfl
      | ok markup =>
        rw [first, second] at agree
        cases agree
    | ok markup =>
      cases second : drawing.draw (right.drawn drawing) with
      | error other =>
        rw [first, second] at agree
        cases agree
      | ok other =>
        rw [first, second] at agree
        exact congrArg (fun literals => [literals]) (Markup.literals_trimmed_congr
          (sound.element _ _ first) (sound.element _ _ second) agree)

/-- Pages of such blocks have the same literals, whatever their themes and titles are. -/
theorem literals_pageMarkup_congr {titles titles' : Titles} {theme theme' : Theme}
    {page page' : PageSettings} {blocks others : List Block}
    (same : List.Forall₂ Block.SameShape blocks others)
    (navigation : page.navbar = Text.ofString "none" ↔ page'.navbar = Text.ofString "none") :
    (pageMarkup titles theme page blocks).literals = (pageMarkup titles' theme' page' others).literals := by
  have body : (blocks.flatMap pictures).map Markup.literals =
      (others.flatMap pictures).map Markup.literals := by
    induction same with
    | nil => rfl
    | cons here _ ih =>
      rw [List.flatMap_cons, List.flatMap_cons, List.map_append, List.map_append,
        literals_pictures_congr here, ih]
  simp [pageMarkup, documentMarkup, Markup.literals_intercalate, body, navigation]

/-! ### Any page -/

/-- **No text injects markup.** Every page of checked blocks is generated, and its document is written from
pieces: literals of the shell and of the templates, and texts, which are escaped. All its marks are those
of the literals. Another page, of blocks that say different things in the same places, has as many of each
mark, whatever the settings, the themes and the page settings are, as long as both or neither leave room
for the navigation. -/
theorem generate_escaped (settings : Settings) (theme : Theme) (page : PageSettings)
    (extras : List (Text × Value)) (blocks : List Block) :
    ∃ generation, Generator.generate ⟨Registry.standard, settings⟩ (.list (blocks.map .block))
        (.theme theme) (.pageSettings page extras) = .ok generation ∧
      generation.output.html = (pageMarkup settings.titles theme page blocks).render ∧
      (∀ written, Piece.literal written ∈ pageMarkup settings.titles theme page blocks →
        written ∈ templateTexts) ∧
      (∀ mark ∈ Text.marks, generation.output.html.count mark =
        (Text.concat (pageMarkup settings.titles theme page blocks).literals).count mark) ∧
      ∀ settings' theme' page' extras' others, List.Forall₂ Block.SameShape blocks others →
        (page.navbar = Text.ofString "none" ↔ page'.navbar = Text.ofString "none") →
        ∃ other, Generator.generate ⟨Registry.standard, settings'⟩ (.list (others.map .block))
            (.theme theme') (.pageSettings page' extras') = .ok other ∧
          ∀ mark ∈ Text.marks, generation.output.html.count mark = other.output.html.count mark := by
  obtain ⟨generation, generated, html⟩ := generate_pageMarkup settings theme page extras blocks
  refine ⟨generation, generated, html, fun literal inside => ?_, fun mark isMark => ?_, ?_⟩
  · exact literals_pageMarkup_subset _ _ _ _ (Markup.mem_literals.mpr inside)
  · rw [html, Markup.count_render isMark]
  · intro settings' theme' page' extras' others same navigation
    obtain ⟨other, generated', html'⟩ := generate_pageMarkup settings' theme' page' extras' others
    refine ⟨other, generated', fun mark isMark => ?_⟩
    rw [html, html', Markup.count_render isMark, Markup.count_render isMark,
      literals_pageMarkup_congr same navigation]

/-- A section with a title and nothing below it. -/
def titled (title : Text) : Block :=
  { typeId := "section", config := .ofList [("title", .text title), ("subtitle", .text [])] }

/-- What the template of sections asks of their titles is answered alike for markup and for a word. -/
theorem sameShape_titled : (titled "<b title=\"'\">").SameShape (titled "plain") := by
  let drawing : Drawing :=
    .ofView genericSection GenericSection.uses GenericSection.read GenericSection.markup .full
  have found : drawingOf? "section" = some drawing := rfl
  have reads : ∀ title ∈ [Text.ofString "<b title=\"'\">", Text.ofString "plain"],
      (Entries.value ((titled title).drawn drawing) "title").shown [] = .ok title ∧
      (Entries.value ((titled title).drawn drawing) "subtitle").shown [] = .ok [] ∧
      (Entries.value ((titled title).drawn drawing) "bg").shown [] = .ok (Text.ofString "default") := by
    decide +kernel
  obtain ⟨title, subtitle, background⟩ := reads _ (.head _)
  obtain ⟨title', subtitle', background'⟩ := reads _ (.tail _ (.head _))
  refine ⟨rfl, fun other same => ?_⟩
  obtain rfl := Option.some.inj (found.symm.trans same)
  show AlikeUnder GenericSection.uses _ _
  simp only [AlikeUnder, GenericSection.uses, List.forall_mem_cons, Use.Alike]
  rw [title, title', subtitle, subtitle', background, background']
  exact ⟨rfl, rfl, ⟨Iff.rfl, List.forall_mem_nil _⟩, List.forall_mem_nil _⟩

theorem generate_escaped_titled :
    ∃ generation other,
      Generator.generate ⟨Registry.standard, {}⟩ (.list [.block (titled "<b title=\"'\">")]) (.theme {})
        (.pageSettings {} []) = .ok generation ∧
      Generator.generate ⟨Registry.standard, {}⟩ (.list [.block (titled "plain")]) (.theme {})
        (.pageSettings {} []) = .ok other ∧
      ∀ mark ∈ Text.marks, generation.output.html.count mark = other.output.html.count mark := by
  obtain ⟨generation, generated, _, _, _, alike⟩ :=
    generate_escaped {} {} {} [] [titled "<b title=\"'\">"]
  obtain ⟨other, generated', same⟩ :=
    alike {} {} {} [] [titled "plain"] (.cons sameShape_titled .nil) Iff.rfl
  exact ⟨generation, other, generated, generated', same⟩

end BlockPage
