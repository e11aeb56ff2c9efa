/-
**Resolved pages, with their style sheets and scripts.**

* `RenderTree`: the fragments of a page with a summary and what went wrong.
* `Diagnostic`: something that went wrong with one block, and at which stage.
* `compileStyle`: a header, the tokens of the theme, the styles of the blocks, then the rules for small
  screens.
* `compileScript`: the scripts of the blocks in one handler, or a remark when there are none.
-/

import BlockPage.Block.Definition
import BlockPage.Text.Parts
import BlockPage.Theme.Basic
import BlockPage.Theme.Stylesheet

namespace BlockPage

/-! ### Fragments -/

/-- Where something went wrong: while the type was looked up, or in a template. -/
inductive Stage where
  | lookup
  | part (part : Part)
  deriving DecidableEq, Repr

/-- The word for a stage. -/
def Stage.word : Stage → Text
  | lookup => "lookup"
  | part which => which.word

/-- All stages. -/
def Stage.all : List Stage := .lookup :: Part.all.map .part

/-- Something that went wrong with the block at a place. -/
structure Diagnostic where
  index : Int
  typeId : Text
  instanceId : Option Text
  stage : Stage
  message : Text
  deriving DecidableEq, Repr

/-- A summary of the blocks of a page. -/
structure Summary where
  blockCount : Int := 0
  typeIds : List Text := []
  hasNavigation : Bool := false
  hasFooter : Bool := false
  deriving DecidableEq, Repr

/-- The fragments of a page. -/
structure RenderTree where
  html : List Text := []
  css : List Text := []
  js : List Text := []
  summary : Summary := {}
  diagnostics : List Diagnostic := []
  deriving DecidableEq, Repr

/-! ### Style and script -/

/-- Lines as one text. -/
def ofLines (lines : List Text) : Text := Text.join [CodePoint.newline] lines

/-- The rules for small screens. -/
def responsiveLines : List String := [
    "@media (max-width: 1024px) \x7b",
    "  .grid-4 \x7b grid-template-columns: repeat(2, 1fr); \x7d",
    "\x7d",
    "@media (max-width: 768px) \x7b",
    "  .grid-3, .grid-4 \x7b grid-template-columns: 1fr; \x7d",
    "  .cs-hero \x7b padding: 4rem 0 3rem; \x7d",
    "  .cs-footer__top \x7b grid-template-columns: 1fr 1fr; \x7d",
    "\x7d",
    "@media (max-width: 480px) \x7b",
    "  .grid-2, .grid-3 \x7b grid-template-columns: 1fr; \x7d",
    "  .cs-pricing__card--featured \x7b transform: none; \x7d",
    "  .cs-footer__top \x7b grid-template-columns: 1fr; \x7d",
    "\x7d"]

/-- The script that reveals elements while the page is scrolled. -/
def revealLines : List String := [
    "// Scroll-reveal animation",
    "const revealEls = document.querySelectorAll('.cs-feature-card, .cs-card, .cs-testimonial, .cs-pricing__card, .cs-faq__item');",
    "if (revealEls.length && 'IntersectionObserver' in window) \x7b",
    "  revealEls.forEach(el => \x7b el.style.opacity = '0'; el.style.transform = 'translateY(20px)'; el.style.transition = 'opacity .5s ease, transform .5s ease'; \x7d);",
    "  const io = new IntersectionObserver(entries => \x7b",
    "    entries.forEach(e => \x7b if (e.isIntersecting) \x7b e.target.style.opacity = '1'; e.target.style.transform = 'none'; io.unobserve(e.target); \x7d \x7d);",
    "  \x7d, \x7b threshold: 0.12 \x7d);",
    "  revealEls.forEach(el => io.observe(el));",
    "\x7d"]

/-- The remark in place of a script. -/
def noScript : Text := "/* No JavaScript required for this layout. */"

/-- The greatest width of the contents of a page. -/
def contentWidth (settings : PageSettings) : Text :=
  if settings.maxWidth.isEmpty then "1200px" else settings.maxWidth

/-- The style sheet of a page. -/
def compileStyle (tree : RenderTree) (theme : Theme) (settings : PageSettings) : Text :=
  ofLines ([Text.ofString "/* === pagecraft - Generated Stylesheet === */", [],
      "/* 1. Design Tokens & Theme */", theme.stylesheet,
      Text.concat [":root \x7b --max-w: ", contentWidth settings, "; \x7d"], [],
      "/* 2. Block Styles */"]
    ++ tree.css
    ++ [[], "/* 3. Responsive */", ofLines (responsiveLines.map Text.ofString)])

/-- The script of a page. -/
def compileScript (tree : RenderTree) (settings : PageSettings) : Text :=
  if tree.js.all Text.isAllBlank then noScript
  else
    ofLines ([Text.ofString "/* === pagecraft - Generated Script === */", "'use strict';", [],
        "// Initialise components",
        "document.addEventListener(\"DOMContentLoaded\", () => \x7b", []]
      ++ tree.js.map (Text.indent · 2)
      ++ [[],
        if settings.animations then Text.indent (ofLines (revealLines.map Text.ofString)) 2 else [],
        [], "\x7d);"])

end BlockPage
