/-
**Sections of headlines.**

Each block type comes with what it shows, read from a configuration, and with how it shows that.

* `GenericSection`, `genericSection`: a section with room for other contents.
* `Hero`, `hero`: the opening section.
* `CallToAction`, `callToAction`: the call to action.
-/

import BlockPage.Block.Definition
import BlockPage.Library.Arguments
import BlockPage.Library.Markup

namespace BlockPage.Library

/-! ### The generic section -/

/-- What a generic section shows. -/
structure GenericSection where
  title : Text
  subtitle : Text
  alternate : Bool

namespace GenericSection

/-- The default configuration. -/
def defaults : Config := textsOf
  [("title", "Section Title"), ("subtitle", "Section subtitle goes here describing the content."),
    ("bg", "default")]

/-- What the entries of a configuration say. -/
def read (entries : Entries) : Except Problem GenericSection := do
  let title ← entryText entries "title"
  let subtitle ← entryText entries "subtitle"
  let background ← entryText entries "bg"
  return { title, subtitle, alternate := background = Text.ofString "alt" }

/-- The section. -/
def markup (view : GenericSection) : Markup := Markup.concat
  ["\n<section class=\"cs-section py-24", .when view.alternate " cs-section--alt",
    "\">\n  <div class=\"container\">\n", headingMarkup view.title view.subtitle,
    "    <div class=\"cs-section__slot\">Add blocks here</div>\n  </div>\n</section>"]

/-- The style. -/
def style : Text := sheet [
    ".cs-section--alt \x7b background: var(--gray-50, #F8FAFC); \x7d",
    ".cs-section__slot \x7b min-height: 120px; border: 2px dashed var(--border, #E2E8F0); border-radius: var(--radius, 8px); display: flex; align-items: center; justify-content: center; color: var(--text-2, #64748B); font-size: .9rem; \x7d"]

end GenericSection

/-- The type of generic sections. -/
def genericSection : Definition := {
  typeId := "section"
  name := "Section"
  icon := "□"
  category := "layout"
  description := "Generic section with a title and content area"
  defaults := GenericSection.defaults
  html := viewTemplate GenericSection.defaults GenericSection.read fun view => view.markup.render
  css := .constant (.text GenericSection.style) }

/-! ### The opening section -/

/-- What an opening section shows. -/
structure Hero where
  badge : Text
  title : Text
  subtitle : Text
  action : Text
  second : Text

namespace Hero

/-- The default configuration. -/
def defaults : Config := textsOf
  [("title", "Build Professional Websites Faster"),
    ("subtitle", "A complete frontend ecosystem. No frameworks. No dependencies. Just clean code ready for production."),
    ("cta", "Get Started"), ("cta2", "View Templates"), ("badge", "New - v2.0")]

/-- What the entries of a configuration say. -/
def read (entries : Entries) : Except Problem Hero := do
  let badge ← entryText entries "badge"
  let title ← entryText entries "title"
  let subtitle ← entryText entries "subtitle"
  let action ← entryText entries "cta"
  let second ← entryText entries "cta2"
  return { badge, title, subtitle, action, second }

/-- The section. -/
def markup (hero : Hero) : Markup := Markup.concat
  ["\n<section class=\"cs-hero\">\n  <div class=\"container text-center\">\n",
    .whenText hero.badge fun badge => Markup.concat
      ["    <span class=\"cs-hero__badge\">", .shown badge, "</span>\n"],
    "    <h1 class=\"cs-hero__title\">", .shown hero.title, "</h1>\n",
    "    <p class=\"cs-hero__sub\">", .shown hero.subtitle, "</p>\n",
    "    <div class=\"cs-hero__actions\">\n",
    .whenText hero.action fun action => Markup.concat
      ["      <a href=\"#\" class=\"btn btn-primary\">", .shown action, "</a>\n"],
    .whenText hero.second fun second => Markup.concat
      ["      <a href=\"#\" class=\"btn btn-outline\">", .shown second, "</a>\n"],
    "    </div>\n  </div>\n</section>"]

/-- The style. -/
def style : Text := sheet [
    ".cs-hero \x7b padding: 6rem 0 5rem; background: linear-gradient(135deg, var(--primary, #2563EB) 0%, var(--accent, #7C3AED) 100%); color: #fff; \x7d",
    ".cs-hero__badge \x7b display: inline-block; padding: .3rem .9rem; background: rgba(255,255,255,.15); border: 1px solid rgba(255,255,255,.3); border-radius: 999px; font-size: .8rem; font-weight: 600; letter-spacing: .04em; margin-bottom: 1.5rem; \x7d",
    ".cs-hero__title \x7b font-size: clamp(2rem, 5vw, 3.5rem); font-weight: 800; line-height: 1.15; letter-spacing: -.03em; margin-bottom: 1.5rem; \x7d",
    ".cs-hero__sub \x7b font-size: 1.15rem; color: rgba(255,255,255,.85); max-width: 600px; margin: 0 auto 2.5rem; line-height: 1.7; \x7d",
    ".cs-hero__actions \x7b display: flex; gap: 1rem; justify-content: center; flex-wrap: wrap; \x7d",
    ".cs-hero__actions .btn-primary \x7b background: #fff; color: var(--primary, #2563EB); border-color: #fff; \x7d",
    ".cs-hero__actions .btn-outline \x7b color: #fff; border-color: rgba(255,255,255,.5); \x7d",
    ".cs-hero__actions .btn-outline:hover \x7b background: rgba(255,255,255,.15); \x7d"]

end Hero

/-- The type of opening sections. -/
def hero : Definition := {
  typeId := "hero"
  name := "Hero Section"
  icon := "★"
  description := "Hero section with headline, subtitle and call to action"
  defaults := Hero.defaults
  html := viewTemplate Hero.defaults Hero.read fun hero => hero.markup.render
  css := .constant (.text Hero.style) }

/-! ### The call to action -/

/-- What a call to action shows. -/
structure CallToAction where
  title : Text
  subtitle : Text
  action : Text
  second : Text

namespace CallToAction

/-- The default configuration. -/
def defaults : Config := textsOf
  [("title", "Ready to Build Something Great?"),
    ("subtitle", "Ship professional quality websites in record time."),
    ("cta", "Get Started Free"), ("cta2", "View Documentation")]

/-- What the entries of a configuration say. -/
def read (entries : Entries) : Except Problem CallToAction := do
  let title ← entryText entries "title"
  let subtitle ← entryText entries "subtitle"
  let action ← entryText entries "cta"
  let second ← entryText entries "cta2"
  return { title, subtitle, action, second }

/-- The section. -/
def markup (view : CallToAction) : Markup := Markup.concat
  ["\n<section class=\"cs-cta py-24 text-center\">\n  <div class=\"container\">\n",
    "    <h2 class=\"cs-cta__title\">", .shown view.title, "</h2>\n",
    "    <p class=\"cs-cta__sub\">", .shown view.subtitle, "</p>\n",
    "    <div class=\"cs-cta__actions\">\n",
    .whenText view.action fun action => Markup.concat
      ["      <a href=\"#\" class=\"btn cs-cta__btn-primary\">", .shown action, "</a>\n"],
    .whenText view.second fun second => Markup.concat
      ["      <a href=\"#\" class=\"btn cs-cta__btn-outline\">", .shown second, "</a>\n"],
    "    </div>\n  </div>\n</section>"]

/-- The style. -/
def style : Text := sheet [
    ".cs-cta \x7b background: linear-gradient(135deg, var(--primary, #2563EB) 0%, var(--accent, #7C3AED) 100%); color: #fff; \x7d",
    ".cs-cta__title \x7b font-size: clamp(1.8rem, 4vw, 2.8rem); font-weight: 800; letter-spacing: -.03em; margin-bottom: 1rem; \x7d",
    ".cs-cta__sub \x7b font-size: 1.1rem; color: rgba(255,255,255,.85); max-width: 520px; margin: 0 auto 2.5rem; \x7d",
    ".cs-cta__actions \x7b display: flex; gap: 1rem; justify-content: center; flex-wrap: wrap; \x7d",
    ".cs-cta__btn-primary \x7b background: #fff; color: var(--primary, #2563EB); border-color: #fff; \x7d",
    ".cs-cta__btn-outline \x7b color: #fff; border-color: rgba(255,255,255,.5); \x7d"]

end CallToAction

/-- The type of calls to action. -/
def callToAction : Definition := {
  typeId := "cta"
  name := "CTA Section"
  icon := "→"
  description := "Call to action on a gradient background"
  defaults := CallToAction.defaults
  html := viewTemplate CallToAction.defaults CallToAction.read fun view => view.markup.render
  css := .constant (.text CallToAction.style) }

end BlockPage.Library
