/-
**Generating pages.**

A generator knows the block types and the settings. Every operation works on its arguments alone, so a
page is a function of them.

* `Generator.generate`, `Generator.preview`: a page in three files, or as one document.
* `Generator.advise`, `Generator.resolve`: its landmarks and its fragments alone.
* `Generator.importLayout`: the blocks of a source within the limit, or why there are none.
-/

import BlockPage.Intake.Look
import BlockPage.Layout.Compile
import BlockPage.Page.Document
import BlockPage.Page.Resolution

namespace BlockPage

/-- Block types with the settings under which pages are made of them. -/
structure Generator where
  registry : Registry
  settings : Settings

/-- A page in three files with what was found on the way. -/
structure Generation where
  output : Output
  warnings : List LandmarkWarning
  diagnostics : List Diagnostic
  deriving DecidableEq, Repr

namespace Generator

/-- The findings about the landmarks of a page. -/
def adviseBlocks (generator : Generator) (placements : List Placement) :
    Except Problem (List LandmarkWarning) :=
  adviseOn (.text generator.settings.navigationType) (.text generator.settings.footerType) placements

/-- The fragments of a page. -/
def resolveBlocks (generator : Generator) (placements : List Placement) :
    Except Problem RenderTree :=
  BlockPage.resolve generator.registry (.text generator.settings.navigationType)
    (.text generator.settings.footerType) placements

/-- A page in three files. -/
def generateBlocks (generator : Generator) (placements : List Placement) (theme : Theme)
    (settings : PageSettings) : Except Problem Generation := do
  let warnings ← generator.adviseBlocks placements
  let tree ← generator.resolveBlocks placements
  return { output := compileOutput generator.settings.titles tree theme settings
           warnings
           diagnostics := tree.diagnostics }

/-- A page as one document. -/
def previewBlocks (generator : Generator) (placements : List Placement) (theme : Theme)
    (settings : PageSettings) : Except Problem Text :=
  (generator.resolveBlocks placements).map fun tree =>
    compilePreview generator.settings.titles tree theme settings

/-! ### From loose values -/

/-- What a page is made of, looked at in order. -/
def pageInput (instances theme settings : Value) :
    Except Problem (List Placement × Theme × PageSettings) := do
  let placements ← Intake.snapshot instances
  let theme ← Intake.coerceTheme theme
  let settings ← Intake.coercePageSettings settings
  return (placements, theme, settings)

/-- A page in three files, from loose values. -/
def generate (generator : Generator) (instances theme settings : Value) :
    Except Problem Generation := do
  let (placements, theme, settings) ← pageInput instances theme settings
  generator.generateBlocks placements theme settings

/-- A page as one document, from loose values. -/
def preview (generator : Generator) (instances theme settings : Value) : Except Problem Text := do
  let (placements, theme, settings) ← pageInput instances theme settings
  generator.previewBlocks placements theme settings

/-- The findings about the landmarks of a page, from a loose value. -/
def advise (generator : Generator) (instances : Value) : Except Problem (List LandmarkWarning) := do
  let placements ← Intake.snapshot instances
  generator.adviseBlocks placements

/-- The fragments of a page, from a loose value. -/
def resolve (generator : Generator) (instances : Value) : Except Problem RenderTree := do
  let placements ← Intake.snapshot instances
  generator.resolveBlocks placements

/-- The blocks of a source within the limit, or its faults. -/
def importLayout (generator : Generator) (source : Text) : Layout.Compilation :=
  Layout.compile source (some generator.settings.sourceLimit)

end Generator

end BlockPage
