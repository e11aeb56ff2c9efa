/-
**The frame of a page.**

* `Navbar`: what the navigation bar shows; `Navbar.markup`: how; `navbar`: the block type.
* `Footer`: what the footer shows; `Footer.markup`: how; `footer`: the block type.
-/

import BlockPage.Block.Definition
import BlockPage.Library.Arguments
import BlockPage.Library.Markup

namespace BlockPage.Library

/-! ### The navigation bar -/

/-- What a navigation bar shows. -/
structure Navbar where
  brand : Text
  links : List Text
  action : Text
  sticky : Bool

namespace Navbar

/-- The default configuration. -/
def defaults : Config := configOf
  [("brand", .text "pagecraft"), ("links", .text "Home, About, Services, Contact"),
    ("cta", .text "Get Started"), ("sticky", .boolean true)]

/-- What the entries of a configuration say. -/
def read (entries : Entries) : Except Problem Navbar := do
  let brand ← (Entries.value entries "brand").shown "pagecraft"
  let links ← splitList (Entries.value entries "links") [CodePoint.comma]
  let action ← entryText entries "cta"
  return {
    brand, action
    links := links.filter fun link => !link.isEmpty
    sticky := flag (Entries.value entries "sticky") }

/-- A link of the menu. -/
def linkMarkup (link : Text) : Markup := Markup.concat
  ["      <li><a href=\"#\" class=\"cs-navbar__link\">", .shown link, "</a></li>\n"]

/-- The button of the menu. -/
def actionMarkup (action : Text) : Markup := Markup.concat
  ["      <li><a href=\"#\" class=\"btn btn-primary\">", .shown action, "</a></li>\n"]

/-- The bar. -/
def markup (bar : Navbar) : Markup := Markup.concat
  ["\n<nav class=\"cs-navbar", .when bar.sticky " cs-navbar--sticky",
    "\">\n  <div class=\"container flex justify-between items-center\">\n",
    "    <a href=\"#\" class=\"cs-navbar__brand\">", .shown bar.brand, "</a>\n",
    "    <button class=\"cs-navbar__toggle\" aria-label=\"Menu\" aria-expanded=\"false\">\n",
    "      <span></span><span></span><span></span>\n    </button>\n",
    "    <ul class=\"cs-navbar__menu\">\n", .forEach bar.links linkMarkup,
    .whenText bar.action actionMarkup, "    </ul>\n  </div>\n</nav>"]

/-- The style. -/
def style : Text := sheet [
    ".cs-navbar \x7b background: var(--surface, #fff); border-bottom: 1px solid var(--border, #E2E8F0); height: 64px; display: flex; align-items: center; z-index: 100; \x7d",
    ".cs-navbar--sticky \x7b position: sticky; top: 0; \x7d",
    ".cs-navbar__brand \x7b font-size: 1.25rem; font-weight: 800; color: var(--primary, #2563EB); letter-spacing: -.02em; \x7d",
    ".cs-navbar__menu \x7b display: flex; align-items: center; gap: 1.5rem; list-style: none; \x7d",
    ".cs-navbar__link \x7b font-size: .9rem; font-weight: 500; color: var(--text, #0F172A); transition: color .2s; \x7d",
    ".cs-navbar__link:hover \x7b color: var(--primary, #2563EB); \x7d",
    ".cs-navbar__toggle \x7b display: none; flex-direction: column; gap: 4px; background: none; border: none; cursor: pointer; padding: 6px; \x7d",
    ".cs-navbar__toggle span \x7b display: block; width: 22px; height: 2px; background: var(--text, #0F172A); border-radius: 2px; transition: .2s; \x7d",
    "@media (max-width: 768px) \x7b",
    "  .cs-navbar__toggle \x7b display: flex; \x7d",
    "  .cs-navbar__menu \x7b display: none; position: absolute; top: 64px; left: 0; right: 0; background: var(--surface, #fff); flex-direction: column; padding: 1rem 1.5rem; border-bottom: 1px solid var(--border, #E2E8F0); gap: 1rem; \x7d",
    "  .cs-navbar__menu.is-open \x7b display: flex; \x7d",
    "\x7d"]

/-- The script. -/
def script : Text := sheet [
    "document.querySelectorAll('.cs-navbar__toggle').forEach(btn => \x7b",
    "  btn.addEventListener('click', () => \x7b",
    "    const menu = btn.closest('.cs-navbar').querySelector('.cs-navbar__menu');",
    "    const open = menu.classList.toggle('is-open');",
    "    btn.setAttribute('aria-expanded', open);",
    "  \x7d);",
    "\x7d);"]

end Navbar

/-- The type of navigation bars. -/
def navbar : Definition := {
  typeId := "navbar"
  name := "Navbar"
  icon := "▬"
  category := "layout"
  description := "Sticky navigation bar with brand and links"
  defaults := Navbar.defaults
  html := viewTemplate Navbar.defaults Navbar.read fun bar => bar.markup.render
  css := .constant (.text Navbar.style)
  js := .constant (.text Navbar.script) }

/-! ### The footer -/

/-- A titled column of links. -/
structure LinkColumn where
  title : Text
  links : List Text

/-- What a footer shows. -/
structure Footer where
  brand : Text
  tagline : Text
  columns : List LinkColumn
  year : Text

namespace Footer

/-- The default configuration. -/
def defaults : Config := textsOf
  [("brand", "pagecraft"), ("tagline", "Professional frontend ecosystem."),
    ("cols", "Product,Templates,Components,Design System,Changelog;Resources,Documentation,Blog,Community,Support;Company,About,Careers,Privacy,Terms")]

/-- A column as it is written: the title and the links, between commas. -/
def readColumn (written : Text) : LinkColumn :=
  let parts := (Text.splitOn [CodePoint.comma] written).map Text.strip
  ⟨parts.headD [], parts.tail.filter fun link => !link.isEmpty⟩

/-- What the entries of a configuration say. -/
def read (entries : Entries) : Except Problem Footer := do
  let columns ← splitList (Entries.value entries "cols") [CodePoint.semicolon]
  let brand ← (Entries.value entries "brand").shown "pagecraft"
  let tagline ← entryText entries "tagline"
  let year ← entryText entries "year"
  return { brand, tagline, year, columns := columns.map readColumn }

/-- A link of a column. -/
def linkMarkup (link : Text) : Markup := Markup.concat
  ["        <a href=\"#\" class=\"cs-footer__link\">", .shown link, "</a>\n"]

/-- A column. -/
def columnMarkup (column : LinkColumn) : Markup := Markup.concat
  ["      <div>\n        <p class=\"cs-footer__col-title\">", .shown column.title, "</p>\n",
    .forEach column.links linkMarkup, "      </div>\n"]

/-- The footer. -/
def markup (footer : Footer) : Markup := Markup.concat
  ["\n<footer class=\"cs-footer\">\n  <div class=\"container\">\n",
    "    <div class=\"cs-footer__top\">\n      <div class=\"cs-footer__brand\">\n",
    "        <div class=\"cs-footer__logo\">", .shown footer.brand, "</div>\n",
    "        <p class=\"cs-footer__tagline\">", .shown footer.tagline, "</p>\n      </div>\n",
    .forEach footer.columns columnMarkup,
    "    </div>\n    <div class=\"cs-footer__bottom\">\n      <p>&copy; ",
    .whenText footer.year fun year => Markup.concat [.shown year, " "],
    .shown footer.brand, ". All rights reserved.</p>\n    </div>\n  </div>\n</footer>"]

/-- The style. -/
def style : Text := sheet [
    ".cs-footer \x7b background: var(--gray-900, #0F172A); color: #94A3B8; padding: 4rem 0 2rem; \x7d",
    ".cs-footer__top \x7b display: grid; grid-template-columns: 1.5fr repeat(auto-fit, minmax(140px, 1fr)); gap: 3rem; margin-bottom: 3rem; \x7d",
    ".cs-footer__logo \x7b font-size: 1.2rem; font-weight: 800; color: #fff; margin-bottom: .5rem; \x7d",
    ".cs-footer__tagline \x7b font-size: .85rem; line-height: 1.6; \x7d",
    ".cs-footer__col-title \x7b font-size: .8rem; font-weight: 700; text-transform: uppercase; letter-spacing: .08em; color: #fff; margin-bottom: 1rem; \x7d",
    ".cs-footer__link \x7b display: block; font-size: .875rem; color: #64748B; margin-bottom: .5rem; transition: color .2s; \x7d",
    ".cs-footer__link:hover \x7b color: #fff; \x7d",
    ".cs-footer__bottom \x7b border-top: 1px solid #1E293B; padding-top: 1.5rem; font-size: .8rem; \x7d",
    "@media (max-width: 768px) \x7b .cs-footer__top \x7b grid-template-columns: 1fr 1fr; \x7d \x7d"]

end Footer

/-- The type of footers. -/
def footer : Definition := {
  typeId := "footer"
  name := "Footer"
  icon := "▁"
  category := "layout"
  description := "Corporate footer with link columns and copyright"
  defaults := Footer.defaults
  html := viewTemplate Footer.defaults Footer.read fun footer => footer.markup.render
  css := .constant (.text Footer.style) }

end BlockPage.Library
