/-
**Sections of items.**

Each block type comes with what it shows, read from a configuration, and with how it shows that.

* `Features`, `features`: the grid of features; `Pricing`, `pricing`: the table of prices.
* `Faq`, `faq`: questions and answers; `Testimonials`, `testimonials`: what people say.
* `Stats`, `stats`: key numbers; `Cards`, `cards`: the grid of cards.
-/

import BlockPage.Block.Definition
import BlockPage.Library.Arguments
import BlockPage.Library.Markup

namespace BlockPage.Library

/-! ### The grid of features -/

/-- A feature with its icon. -/
structure Feature where
  icon : Text
  title : Text
  description : Text

/-- What a grid of features shows. -/
structure Features where
  title : Text
  subtitle : Text
  columns : Text
  items : List Feature

namespace Features

/-- The default configuration. -/
def defaults : Config := textsOf
  [("title", "Everything You Need"),
    ("subtitle", "A complete set of professional building blocks for your next project."),
    ("cols", "3"),
    ("items", "Zero Dependencies|Pure HTML5, CSS3 and vanilla JS, no build tools required.;Fully Responsive|Mobile-first design that looks right on every screen size.;Production Ready|Clean, commented, scalable architecture ready to ship.")]

/-- The icons, which features take in turn. -/
def icons : List String := ["⚡", "🎨", "📦", "🛡", "🔧", "🚀", "💡", "🌐", "✓"]

/-- The icon of the feature at a place. -/
def icon (index : Nat) : Text := icons.getD (index % icons.length) ""

/-- A feature from its record and its place. -/
def readFeature (item : List Text × Nat) : Feature :=
  ⟨icon item.2, field item.1 0, field item.1 1⟩

/-- What the entries of a configuration say. -/
def read (entries : Entries) : Except Problem Features := do
  let records ← splitRecords (Entries.value entries "items") 2
  let title ← entryText entries "title"
  let subtitle ← entryText entries "subtitle"
  let columns ← gridColumns (Entries.value entries "cols")
  return { title, subtitle, columns, items := records.zipIdx.map readFeature }

/-- A feature. -/
def itemMarkup (item : Feature) : Markup := Markup.concat
  ["      <div class=\"cs-feature-card\">\n",
    "        <div class=\"cs-feature-card__icon\">", .shown item.icon, "</div>\n",
    "        <h3 class=\"cs-feature-card__title\">", .shown item.title, "</h3>\n",
    "        <p class=\"cs-feature-card__desc\">", .shown item.description, "</p>\n      </div>\n"]

/-- The grid. -/
def markup (view : Features) : Markup := Markup.concat
  ["\n<section class=\"cs-features py-24\">\n  <div class=\"container\">\n",
    headingMarkup view.title view.subtitle, "    <div class=\"grid-", .shown view.columns, "\">\n",
    .forEach view.items itemMarkup, "    </div>\n  </div>\n</section>"]

/-- The style. -/
def style : Text := headingStyle ++ sheet [
    ".cs-feature-card \x7b background: var(--surface, #fff); border: 1px solid var(--border, #E2E8F0); border-radius: calc(var(--radius, 8px) * 1.5); padding: 2rem; transition: box-shadow .25s, transform .25s; \x7d",
    ".cs-feature-card:hover \x7b box-shadow: 0 12px 40px rgba(0,0,0,.08); transform: translateY(-3px); \x7d",
    ".cs-feature-card__icon \x7b font-size: 2rem; margin-bottom: 1rem; \x7d",
    ".cs-feature-card__title \x7b font-size: 1.05rem; font-weight: 700; margin-bottom: .5rem; \x7d",
    ".cs-feature-card__desc \x7b font-size: .9rem; color: var(--text-2, #64748B); line-height: 1.65; \x7d"]

end Features

/-- The type of grids of features. -/
def features : Definition := {
  typeId := "features"
  name := "Feature Grid"
  icon := "⊞"
  description := "Feature grid with icons and descriptions"
  defaults := Features.defaults
  html := viewTemplate Features.defaults Features.read fun view => view.markup.render
  css := .constant (.text Features.style) }

/-! ### The table of prices -/

/-- A plan with its price. -/
structure Plan where
  name : Text
  price : Text
  features : List Text
  featured : Bool

/-- What a table of prices shows. -/
structure Pricing where
  title : Text
  plans : List Plan

namespace Pricing

/-- The default configuration. -/
def defaults : Config := textsOf
  [("title", "Simple, Transparent Pricing"), ("featured", "1"),
    ("plan1", "Starter|Free;For individuals;Up to 5 projects;Community support;Basic components"),
    ("plan2", "Pro|$29/mo;For professionals;Unlimited projects;Priority support;All components;Advanced templates"),
    ("plan3", "Enterprise|Custom;For teams;Everything in Pro;Dedicated support;Custom integrations;SLA guarantee")]

/-- The keys of the plans. -/
def planKeys : List String := ["plan1", "plan2", "plan3"]

/-- The plan at a place, as its parts say: the name and price before and behind a bar, then features. -/
def plan (featured : Text) (index : Nat) (parts : List Text) : Plan :=
  let head := parts.headD []
  let name := head.takeWhile (· ≠ CodePoint.verticalBar)
  let price := (head.dropWhile (· ≠ CodePoint.verticalBar)).drop 1
  { name := orElse (Text.strip name) (Text.ofString "Plan " ++ Number.decimal (index + 1))
    price := orElse (Text.strip price) "–"
    features := parts.tail.filter fun feature => !feature.isEmpty
    featured := featured = Number.decimal index }

/-- What the entries of a configuration say. -/
def read (entries : Entries) : Except Problem Pricing := do
  let featured ← entryText entries "featured"
  let plans ← planKeys.zipIdx.mapM fun key => do
    let parts ← splitList (Entries.value entries key.1) [CodePoint.semicolon]
    return plan featured key.2 parts
  let title ← entryText entries "title"
  return { title, plans }

/-- A feature of a plan. -/
def featureMarkup (feature : Text) : Markup := Markup.concat
  ["          <li>✓ ", .shown feature, "</li>\n"]

/-- A plan. -/
def planMarkup (plan : Plan) : Markup := Markup.concat
  ["      <div class=\"cs-pricing__card", .when plan.featured " cs-pricing__card--featured",
    "\">\n",
    .when plan.featured "        <span class=\"cs-pricing__badge\">Most Popular</span>\n",
    "        <h3 class=\"cs-pricing__name\">", .shown plan.name, "</h3>\n",
    "        <div class=\"cs-pricing__price\">", .shown plan.price, "</div>\n",
    "        <ul class=\"cs-pricing__feats\">\n", .forEach plan.features featureMarkup,
    "        </ul>\n        <a href=\"#\" class=\"btn ",
    .shown (if plan.featured then "btn-primary" else "btn-outline"),
    " cs-pricing__cta\">Get Started</a>\n      </div>\n"]

/-- The table. -/
def markup (view : Pricing) : Markup := Markup.concat
  ["\n<section class=\"cs-pricing py-24\">\n  <div class=\"container\">\n", titleMarkup view.title,
    "    <div class=\"cs-pricing__grid\">\n", .forEach view.plans planMarkup,
    "    </div>\n  </div>\n</section>"]

/-- The style. -/
def style : Text := headingStyle ++ sheet [
    ".cs-pricing__grid \x7b display: grid; grid-template-columns: repeat(auto-fit, minmax(260px, 1fr)); gap: 1.5rem; align-items: start; max-width: 900px; margin: 0 auto; \x7d",
    ".cs-pricing__card \x7b background: var(--surface, #fff); border: 2px solid var(--border, #E2E8F0); border-radius: calc(var(--radius, 8px) * 2); padding: 2rem; position: relative; \x7d",
    ".cs-pricing__card--featured \x7b border-color: var(--primary, #2563EB); box-shadow: 0 20px 60px rgba(37,99,235,.15); transform: scale(1.04); \x7d",
    ".cs-pricing__badge \x7b position: absolute; top: -12px; left: 50%; transform: translateX(-50%); background: var(--primary, #2563EB); color: #fff; font-size: .7rem; font-weight: 700; padding: .2rem .8rem; border-radius: 999px; white-space: nowrap; \x7d",
    ".cs-pricing__name \x7b font-size: 1rem; font-weight: 700; color: var(--text-2, #64748B); text-transform: uppercase; letter-spacing: .08em; margin-bottom: .5rem; \x7d",
    ".cs-pricing__price \x7b font-size: 2.4rem; font-weight: 800; letter-spacing: -.03em; margin-bottom: 1.5rem; \x7d",
    ".cs-pricing__feats \x7b list-style: none; margin-bottom: 1.5rem; display: flex; flex-direction: column; gap: .6rem; \x7d",
    ".cs-pricing__feats li \x7b font-size: .9rem; color: var(--text-2, #64748B); \x7d",
    ".cs-pricing__cta \x7b width: 100%; justify-content: center; \x7d"]

end Pricing

/-- The type of tables of prices. -/
def pricing : Definition := {
  typeId := "pricing"
  name := "Pricing Table"
  icon := "💲"
  description := "Pricing table with three plans"
  defaults := Pricing.defaults
  html := viewTemplate Pricing.defaults Pricing.read fun view => view.markup.render
  css := .constant (.text Pricing.style) }

/-! ### Questions and answers -/

/-- A question with its answer. -/
structure Question where
  question : Text
  answer : Text

/-- What a list of questions shows. -/
structure Faq where
  title : Text
  items : List Question

namespace Faq

/-- The default configuration. -/
def defaults : Config := textsOf
  [("title", "Frequently Asked Questions"),
    ("items", "What is pagecraft?|A block-based page builder that exports plain HTML, CSS and JavaScript.;Is it free to use?|Yes, for personal and commercial projects.;Do I need a build tool?|No. Link styles.css and script.js from your HTML and you are done.;Is it responsive?|Every block is mobile-first and fully responsive.")]

/-- A question from its record. -/
def readQuestion (record : List Text) : Question :=
  ⟨orElse (field record 0) "Question", orElse (field record 1) "Answer goes here."⟩

/-- What the entries of a configuration say. -/
def read (entries : Entries) : Except Problem Faq := do
  let records ← splitRecords (Entries.value entries "items") 2
  let title ← entryText entries "title"
  return { title, items := records.map readQuestion }

/-- The identifier of the answer at a place. -/
def answerId (index : Nat) : Markup := Markup.concat
  ["faq-a-", .shown (Number.decimal index)]

/-- The question at a place. -/
def itemMarkup (item : Question × Nat) : Markup := Markup.concat
  ["      <div class=\"cs-faq__item\">\n",
    "        <button class=\"cs-faq__q\" aria-expanded=\"false\" aria-controls=\"",
    answerId item.2, "\">\n          <span>", .shown item.1.question, "</span>\n",
    "          <span class=\"cs-faq__arrow\">›</span>\n        </button>\n",
    "        <div class=\"cs-faq__a\" id=\"", answerId item.2, "\" hidden>", .shown item.1.answer,
    "</div>\n      </div>\n"]

/-- The list. -/
def markup (view : Faq) : Markup := Markup.concat
  ["\n<section class=\"cs-faq py-24\">\n  <div class=\"container cs-faq__container\">\n",
    titleMarkup view.title, "    <div class=\"cs-faq__list\">\n",
    .forEach view.items.zipIdx itemMarkup, "    </div>\n  </div>\n</section>"]

/-- The style. -/
def style : Text := headingStyle ++ sheet [
    ".cs-faq__container \x7b max-width: 720px; \x7d",
    ".cs-faq__list \x7b display: flex; flex-direction: column; gap: .75rem; \x7d",
    ".cs-faq__item \x7b background: var(--surface, #fff); border: 1px solid var(--border, #E2E8F0); border-radius: var(--radius, 8px); overflow: hidden; \x7d",
    ".cs-faq__q \x7b width: 100%; display: flex; justify-content: space-between; align-items: center; gap: 1rem; padding: 1.1rem 1.25rem; background: none; border: none; cursor: pointer; font-size: .95rem; font-weight: 600; color: var(--text, #0F172A); text-align: left; \x7d",
    ".cs-faq__arrow \x7b font-size: 1.3rem; transition: transform .25s; flex-shrink: 0; color: var(--text-2, #64748B); \x7d",
    ".cs-faq__item.is-open .cs-faq__arrow \x7b transform: rotate(90deg); \x7d",
    ".cs-faq__a \x7b padding: 0 1.25rem 1.1rem; font-size: .9rem; color: var(--text-2, #64748B); line-height: 1.7; \x7d"]

/-- The script. -/
def script : Text := sheet [
    "document.querySelectorAll('.cs-faq__q').forEach(btn => \x7b",
    "  btn.addEventListener('click', () => \x7b",
    "    const item = btn.closest('.cs-faq__item');",
    "    const answer = item.querySelector('.cs-faq__a');",
    "    const open = item.classList.toggle('is-open');",
    "    btn.setAttribute('aria-expanded', open);",
    "    answer.hidden = !open;",
    "  \x7d);",
    "\x7d);"]

end Faq

/-- The type of lists of questions. -/
def faq : Definition := {
  typeId := "faq"
  name := "FAQ Accordion"
  icon := "?"
  description := "Frequently asked questions in an accordion"
  defaults := Faq.defaults
  html := viewTemplate Faq.defaults Faq.read fun view => view.markup.render
  css := .constant (.text Faq.style)
  js := .constant (.text Faq.script) }

/-! ### Testimonials -/

/-- What somebody says. -/
structure Testimonial where
  name : Text
  role : Text
  quote : Text
  stars : Text

/-- What a row of testimonials shows. -/
structure Testimonials where
  title : Text
  items : List Testimonial

namespace Testimonials

/-- The default configuration. -/
def defaults : Config := textsOf
  [("title", "What Our Users Say"),
    ("items", "Alex Rivera|Lead Developer at TechCorp|Saved us weeks of setup time. Zero config needed.|⭐⭐⭐⭐⭐;Mia Chen|Freelance Designer|A professional template system without the bloat.|⭐⭐⭐⭐⭐;James Park|Startup Founder|We shipped our MVP in record time.|⭐⭐⭐⭐⭐")]

/-- A testimonial from its record. -/
def readTestimonial (record : List Text) : Testimonial :=
  ⟨field record 0, field record 1, field record 2, orElse (field record 3) "⭐⭐⭐⭐⭐"⟩

/-- What the entries of a configuration say. -/
def read (entries : Entries) : Except Problem Testimonials := do
  let records ← splitRecords (Entries.value entries "items") 4
  let title ← entryText entries "title"
  return { title, items := records.map readTestimonial }

/-- The first code point of a name. -/
def initial (name : Text) : Text := (orElse name "U").take 1

/-- A testimonial. -/
def itemMarkup (item : Testimonial) : Markup := Markup.concat
  ["      <div class=\"cs-testimonial\">\n",
    "        <div class=\"cs-testimonial__stars\">", .shown item.stars, "</div>\n",
    "        <p class=\"cs-testimonial__quote\">\"", .shown item.quote, "\"</p>\n",
    "        <div class=\"cs-testimonial__author\">\n",
    "          <div class=\"cs-testimonial__avatar\">", .shown (initial item.name), "</div>\n",
    "          <div><div class=\"cs-testimonial__name\">", .shown item.name,
    "</div><div class=\"cs-testimonial__role\">", .shown item.role,
    "</div></div>\n        </div>\n      </div>\n"]

/-- The row. -/
def markup (view : Testimonials) : Markup := Markup.concat
  ["\n<section class=\"cs-testimonials py-24\">\n  <div class=\"container\">\n",
    titleMarkup view.title, "    <div class=\"grid-3\">\n", .forEach view.items itemMarkup,
    "    </div>\n  </div>\n</section>"]

/-- The style. -/
def style : Text := headingStyle ++ sheet [
    ".cs-testimonials \x7b background: var(--bg, #F8FAFC); \x7d",
    ".cs-testimonial \x7b background: var(--surface, #fff); border: 1px solid var(--border, #E2E8F0); border-radius: calc(var(--radius, 8px) * 1.5); padding: 1.75rem; \x7d",
    ".cs-testimonial__stars \x7b margin-bottom: .75rem; font-size: .9rem; \x7d",
    ".cs-testimonial__quote \x7b font-size: .95rem; color: var(--text, #0F172A); line-height: 1.7; margin-bottom: 1.25rem; font-style: italic; \x7d",
    ".cs-testimonial__author \x7b display: flex; align-items: center; gap: .75rem; \x7d",
    ".cs-testimonial__avatar \x7b width: 40px; height: 40px; border-radius: 50%; background: var(--primary, #2563EB); color: #fff; display: flex; align-items: center; justify-content: center; font-weight: 700; flex-shrink: 0; \x7d",
    ".cs-testimonial__name \x7b font-size: .9rem; font-weight: 700; \x7d",
    ".cs-testimonial__role \x7b font-size: .8rem; color: var(--text-2, #64748B); \x7d"]

end Testimonials

/-- The type of rows of testimonials. -/
def testimonials : Definition := {
  typeId := "testimonials"
  name := "Testimonials"
  icon := "❝"
  description := "Customer testimonial cards"
  defaults := Testimonials.defaults
  html := viewTemplate Testimonials.defaults Testimonials.read fun view => view.markup.render
  css := .constant (.text Testimonials.style) }

/-! ### Key numbers -/

/-- A number with its label. -/
structure Stat where
  value : Text
  label : Text

/-- What a row of key numbers shows. -/
structure Stats where
  items : List Stat

namespace Stats

/-- The default configuration. -/
def defaults : Config := textsOf
  [("items", "10K+|Active Users;98%|Satisfaction;50+|Components;0|Dependencies")]

/-- A number from its record. -/
def readStat (record : List Text) : Stat := ⟨field record 0, field record 1⟩

/-- What the entries of a configuration say. -/
def read (entries : Entries) : Except Problem Stats := do
  let records ← splitRecords (Entries.value entries "items") 2
  return { items := records.map readStat }

/-- A number. -/
def itemMarkup (item : Stat) : Markup := Markup.concat
  ["      <div class=\"cs-stat\"><div class=\"cs-stat__val\" data-target=\"", .shown item.value,
    "\">", .shown item.value, "</div><div class=\"cs-stat__label\">", .shown item.label,
    "</div></div>\n"]

/-- The row. -/
def markup (view : Stats) : Markup := Markup.concat
  ["\n<section class=\"cs-stats py-16\">\n  <div class=\"container\">\n",
    "    <div class=\"cs-stats__grid\">\n", .forEach view.items itemMarkup,
    "    </div>\n  </div>\n</section>"]

/-- The style. -/
def style : Text := sheet [
    ".cs-stats \x7b background: var(--surface, #fff); border-top: 1px solid var(--border, #E2E8F0); border-bottom: 1px solid var(--border, #E2E8F0); \x7d",
    ".cs-stats__grid \x7b display: grid; grid-template-columns: repeat(auto-fit, minmax(150px, 1fr)); gap: 2rem; text-align: center; \x7d",
    ".cs-stat__val \x7b font-size: 2.4rem; font-weight: 800; color: var(--primary, #2563EB); letter-spacing: -.03em; \x7d",
    ".cs-stat__label \x7b font-size: .875rem; color: var(--text-2, #64748B); font-weight: 500; margin-top: .25rem; \x7d"]

end Stats

/-- The type of rows of key numbers. -/
def stats : Definition := {
  typeId := "stats"
  name := "Stats / Metrics"
  icon := "📊"
  description := "Key numbers in a row"
  defaults := Stats.defaults
  html := viewTemplate Stats.defaults Stats.read fun view => view.markup.render
  css := .constant (.text Stats.style) }

/-! ### The grid of cards -/

/-- A card. -/
structure Card where
  title : Text
  description : Text

/-- What a grid of cards shows. -/
structure Cards where
  title : Text
  columns : Text
  items : List Card

namespace Cards

/-- The default configuration. -/
def defaults : Config := textsOf
  [("title", "Our Services"), ("cols", "3"),
    ("items", "Web Design|Professional UI/UX design that converts visitors into customers.;Development|Clean, maintainable code built on modern web standards.;Consulting|Expert guidance on architecture, performance, and scalability.")]

/-- A card from its record. -/
def readCard (record : List Text) : Card :=
  ⟨orElse (field record 0) "Card Title", orElse (field record 1) "Card description goes here."⟩

/-- What the entries of a configuration say. -/
def read (entries : Entries) : Except Problem Cards := do
  let records ← splitRecords (Entries.value entries "items") 2
  let title ← entryText entries "title"
  let columns ← gridColumns (Entries.value entries "cols")
  return { title, columns, items := records.map readCard }

/-- A card. -/
def itemMarkup (item : Card) : Markup := Markup.concat
  ["      <div class=\"cs-card\">\n        <div class=\"cs-card__header\"></div>\n",
    "        <div class=\"cs-card__body\">\n",
    "          <h3 class=\"cs-card__title\">", .shown item.title, "</h3>\n",
    "          <p class=\"cs-card__desc\">", .shown item.description, "</p>\n",
    "          <a href=\"#\" class=\"cs-card__link\">Learn more →</a>\n",
    "        </div>\n      </div>\n"]

/-- The grid. -/
def markup (view : Cards) : Markup := Markup.concat
  ["\n<section class=\"cs-cards py-24\">\n  <div class=\"container\">\n", titleMarkup view.title,
    "    <div class=\"grid-", .shown view.columns, "\">\n", .forEach view.items itemMarkup,
    "    </div>\n  </div>\n</section>"]

/-- The style. -/
def style : Text := headingStyle ++ sheet [
    ".cs-card \x7b background: var(--surface, #fff); border: 1px solid var(--border, #E2E8F0); border-radius: calc(var(--radius, 8px) * 1.5); overflow: hidden; transition: box-shadow .25s, transform .25s; \x7d",
    ".cs-card:hover \x7b box-shadow: 0 16px 40px rgba(0,0,0,.1); transform: translateY(-4px); \x7d",
    ".cs-card__header \x7b height: 160px; background: linear-gradient(135deg, var(--primary, #2563EB), var(--accent, #7C3AED)); \x7d",
    ".cs-card__body \x7b padding: 1.5rem; \x7d",
    ".cs-card__title \x7b font-size: 1rem; font-weight: 700; margin-bottom: .5rem; \x7d",
    ".cs-card__desc \x7b font-size: .875rem; color: var(--text-2, #64748B); line-height: 1.65; margin-bottom: 1rem; \x7d",
    ".cs-card__link \x7b font-size: .875rem; font-weight: 600; color: var(--primary, #2563EB); \x7d"]

end Cards

/-- The type of grids of cards. -/
def cards : Definition := {
  typeId := "cards"
  name := "Card Grid"
  icon := "▦"
  description := "Card grid with title and description"
  defaults := Cards.defaults
  html := viewTemplate Cards.defaults Cards.read fun view => view.markup.render
  css := .constant (.text Cards.style) }

end BlockPage.Library
