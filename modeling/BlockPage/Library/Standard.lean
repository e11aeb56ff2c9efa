/-
**The standard library of block types.**

* `standard`: the eleven block types in the order in which they are listed.
* `baseStyle`: the style that all pages share.
-/

import BlockPage.Library.Collections
import BlockPage.Library.Frame
import BlockPage.Library.Headlines

namespace BlockPage.Library

/-- The block types in order: the landmarks and the generic section, then the contents. -/
def standard : List Definition :=
  [navbar, footer, genericSection, hero, features, pricing, faq, testimonials, callToAction, stats,
    cards]

/-- The lines of the shared style. -/
def baseLines : List String := [
    "*, *::before, *::after \x7b box-sizing: border-box; margin: 0; padding: 0; \x7d",
    "body \x7b font-family: var(--font-sans, system-ui, sans-serif); background: var(--bg, #F8FAFC); color: var(--text, #0F172A); line-height: 1.6; \x7d",
    "img \x7b display: block; max-width: 100%; \x7d",
    "a \x7b color: var(--primary, #2563EB); text-decoration: none; \x7d",
    ".container \x7b max-width: var(--max-w, 1200px); margin: 0 auto; padding: 0 1.5rem; \x7d",
    ".grid-2 \x7b display: grid; grid-template-columns: repeat(auto-fit, minmax(280px, 1fr)); gap: 1.5rem; \x7d",
    ".grid-3 \x7b display: grid; grid-template-columns: repeat(auto-fit, minmax(240px, 1fr)); gap: 1.5rem; \x7d",
    ".grid-4 \x7b display: grid; grid-template-columns: repeat(auto-fit, minmax(200px, 1fr)); gap: 1.5rem; \x7d",
    ".flex \x7b display: flex; \x7d .flex-col \x7b flex-direction: column; \x7d",
    ".items-center \x7b align-items: center; \x7d .justify-center \x7b justify-content: center; \x7d",
    ".justify-between \x7b justify-content: space-between; \x7d",
    ".text-center \x7b text-align: center; \x7d",
    ".py-8 \x7b padding-top: 2rem; padding-bottom: 2rem; \x7d",
    ".py-16 \x7b padding-top: 4rem; padding-bottom: 4rem; \x7d",
    ".py-24 \x7b padding-top: 6rem; padding-bottom: 6rem; \x7d",
    ".mb-4 \x7b margin-bottom: 1rem; \x7d .mb-6 \x7b margin-bottom: 1.5rem; \x7d .mb-8 \x7b margin-bottom: 2rem; \x7d",
    ".gap-4 \x7b gap: 1rem; \x7d .gap-6 \x7b gap: 1.5rem; \x7d",
    ".btn \x7b display: inline-flex; align-items: center; gap: .4rem; padding: .6rem 1.4rem; border-radius: var(--radius, 8px); border: 1.5px solid transparent; font-size: .9rem; font-weight: 600; cursor: pointer; transition: all .2s; text-decoration: none; \x7d",
    ".btn-primary \x7b background: var(--primary, #2563EB); color: #fff; border-color: var(--primary, #2563EB); \x7d",
    ".btn-primary:hover \x7b opacity: .88; transform: translateY(-1px); \x7d",
    ".btn-outline \x7b background: transparent; color: var(--primary, #2563EB); border-color: var(--primary, #2563EB); \x7d",
    ".btn-outline:hover \x7b background: var(--primary, #2563EB); color: #fff; \x7d"]

/-- The style that all pages share. -/
def baseStyle : Text := Text.join [CodePoint.newline] (baseLines.map Text.ofString)

end BlockPage.Library
