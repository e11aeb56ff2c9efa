/-
**The document of a page.**

The document is one shell around the fragments: the style and the script are linked, or stand inside
it. Texts about the page are escaped; fragments, style and script are final and stand as they are.

* `Assets`: linked or inlined style and script.
* `Titles`: what a page is called when its settings do not say.
* `document`: the document.
* `Output`, `compileOutput`: the three files of a page; `compilePreview`: the page as one document.
* `Settings`: logging, the limit on sources, the types of the landmarks, and the titles.
-/

import BlockPage.Page.Assets
import BlockPage.Text.Quoted

namespace BlockPage

/-- The title and description of pages that have none of their own. -/
structure Titles where
  title : Text := "My Project"
  description : Text := "Built with pagecraft"
  deriving DecidableEq, Repr

/-- Where the style and the script of a document are. -/
inductive Assets where
  | linked
  | inlined (css js : Text)
  deriving DecidableEq, Repr

/-- The three files of a page. -/
structure Output where
  html : Text
  css : Text
  js : Text
  deriving DecidableEq, Repr

/-- A text that is there and not empty, or another one. -/
def filled (text : Option Text) (fallback : Text) : Text :=
  match text with
  | none | some [] => fallback
  | some text => text

/-- The line of the style in the head. -/
def Assets.styleLine : Assets → Text
  | linked => "  <link rel=\"stylesheet\" href=\"styles.css\">\n"
  | inlined css _ => Text.concat ["  <style>", css, "</style>\n"]

/-- The line of the script at the end of the body. -/
def Assets.scriptLine : Assets → Text
  | linked => "  <script defer src=\"script.js\"></script>\n"
  | inlined _ [] => []
  | inlined _ js => Text.concat ["  <script>", js, "</script>\n"]

/-- The room that a page leaves for its navigation. -/
def navigationOffset (settings : PageSettings) : Text :=
  if settings.navbar = Text.ofString "none" then []
  else " style=\"padding-top: 64px;\""

/-- The fragments of a page. -/
def documentBody (tree : RenderTree) : Text := Text.join "\n\n" tree.html

/-- The document up to the line of the style. -/
def documentHead (titles : Titles) (theme : Theme) (settings : PageSettings) : Text :=
  Text.concat ["<!DOCTYPE html>\n<html lang=\"en\" data-theme=\"", Text.escape theme.mode.word,
    "\">\n<head>\n  <meta charset=\"UTF-8\">\n",
    "  <meta name=\"viewport\" content=\"width=device-width, initial-scale=1.0\">\n",
    "  <meta name=\"description\" content=\"",
    Text.escape (filled settings.description titles.description), "\">\n  <title>",
    Text.escape (filled settings.title titles.title), "</title>\n"]

/-- The document between the lines of the style and of the script. -/
def documentMiddle (tree : RenderTree) (settings : PageSettings) : Text :=
  Text.concat ["</head>\n<body", navigationOffset settings, ">\n\n", documentBody tree, "\n\n"]

/-- The document behind the line of the script. -/
def documentTail : Text := "</body>\n</html>"

/-- The document of a page. -/
def document (titles : Titles) (tree : RenderTree) (theme : Theme) (settings : PageSettings)
    (assets : Assets) : Text :=
  Text.concat [documentHead titles theme settings, assets.styleLine,
    documentMiddle tree settings, assets.scriptLine, documentTail]

/-- The three files of a page. -/
def compileOutput (titles : Titles) (tree : RenderTree) (theme : Theme) (settings : PageSettings) :
    Output :=
  { html := document titles tree theme settings .linked
    css := compileStyle tree theme settings
    js := compileScript tree settings }

/-- The page as one document. -/
def compilePreview (titles : Titles) (tree : RenderTree) (theme : Theme)
    (settings : PageSettings) : Text :=
  let js := if tree.js.isEmpty then [] else compileScript tree settings
  document titles tree theme settings (.inlined (compileStyle tree theme settings) js)

/-- Settings of the program. -/
structure Settings where
  logLevel : Text := "INFO"
  jsonLogs : Bool := false
  sourceLimit : Int := 262144
  navigationType : Text := "navbar"
  footerType : Text := "footer"
  titles : Titles := {}
  deriving DecidableEq, Repr

end BlockPage
