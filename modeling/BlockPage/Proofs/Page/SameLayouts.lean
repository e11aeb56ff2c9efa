/-
**Layouts of equal structure.**

Layouts are equal if their types agree in order and their configurations are equal as maps. Two of them may
have values in common, and a NaN is equal to itself only so; therefore all layouts are meant here that can be
found equal. Style, script and advice of a page depend on the types alone. Its markup depends on the texts of
values too, and equal numbers of different kinds have different texts; so it is the same where such values are
of one form.

* `Block.SameForms`: the values that the type of two blocks shows as texts are of one form.
* `pictures_congr`: the markup of such blocks; `flatMap_contributionsFrom_congr`: what blocks of the same types
  add.
* `generate_sameLayout`: pages of equal layouts; `generate_sameLayout_kinds`: their markup may differ.
-/

import BlockPage.Proofs.Block.Structure
import BlockPage.Proofs.Library.SameReadings
import BlockPage.Proofs.Page.FirstOccurrences
import BlockPage.Proofs.Page.StandardPages
import BlockPage.Proofs.Value.Entries

namespace BlockPage

open Library

/-! ### Markup -/

/-- The values that the type of two blocks shows as texts are of one form where both blocks have them. -/
def Block.SameForms (left right : Block) : Prop :=
  ∀ drawing, drawingOf? left.typeId = some drawing → ∀ use ∈ drawing.uses, use.2 ≠ .switch →
    ∀ value other, left.config.get? use.1 = some value → right.config.get? use.1 = some other →
      value.SameForm other

/-- Equal values switch alike, of whatever kinds they are. -/
theorem flag_of_maybeEqual {value other : Scalar} (same : other.maybeEqual value = true) :
    flag (.scalar value) = flag (.scalar other) := by
  have truth := Scalar.isTruthy_of_maybeEqual same
  rcases Bool.or_eq_true_iff.mp same with shared | equal
  · rw [eq_of_beq shared]
  cases value with
  | text text =>
    cases other with
    | text text' => rw [eq_of_beq equal]
    | _ => cases equal
  | _ =>
    cases other with
    | text text' => cases equal
    | _ => exact truth

/-- A block draws its own values, and defaults where it has none. -/
theorem value_drawn (block : Block) (drawing : Drawing) (key : Text) :
    (block.drawn drawing).value key = (((block.config.get? key).map .scalar).or
      ((Entries.ofConfig drawing.definition.defaults).get? key)).getD .absent := by
  rw [Entries.value, Block.drawn, effective, Entries.get?_overlay]

section Pair

variable {left right : Block}

/-- The type of two equal blocks of the same forms reads the same in both. -/
theorem sameUnder_drawn {drawing : Drawing} (found : drawingOf? left.typeId = some drawing)
    (same : left.sameStructureBy Scalar.maybeEqual right = true) (forms : left.SameForms right) :
    SameUnder drawing.uses (left.drawn drawing) (right.drawn drawing) := by
  rw [Block.sameStructureBy_iff] at same
  rintro ⟨key, use⟩ inside
  rw [value_drawn, value_drawn]
  have refl : ∀ value, use.Same value value := fun value => by cases use <;> rfl
  rcases Config.sameAt_of_equalBy same.2 key with ⟨absent, absent'⟩ | ⟨value, other, own, own', equal⟩
  · rw [absent, absent']
    exact refl _
  · rw [own, own']
    by_cases switch : use = .switch
    · rw [switch]
      exact flag_of_maybeEqual equal
    · rw [Scalar.eq_of_maybeEqual equal (forms drawing found (key, use) inside switch value other own own')]
      exact refl _

/-- Equal blocks of the same forms are drawn alike. -/
theorem pictures_congr (same : left.sameStructureBy Scalar.maybeEqual right = true)
    (forms : left.SameForms right) : pictures left = pictures right := by
  have typeId : left.typeId = right.typeId := (Block.sameStructureBy_iff.mp same).1
  unfold pictures
  rw [← typeId]
  cases found : drawingOf? left.typeId with
  | none => rfl
  | some drawing =>
    dsimp only
    rw [draw_congr drawing (List.mem_of_find?_eq_some found) _ _ (sameUnder_drawn found same forms)]

end Pair

/-! ### Style and script -/

/-- What blocks of the same types add, where each adds what depends on its type alone. -/
theorem flatMap_contributionsFrom_congr {α : Type} (registry : Registry) (read : Contribution → List α)
    (each : ∀ index seen (left right : Block), left.typeId = right.typeId →
      read (contribution registry index seen left) = read (contribution registry index seen right))
    {left right : List Block}
    (same : List.Forall₂ (fun block other => block.typeId = other.typeId) left right) :
    ∀ (index : Nat) (seen : List Text),
      (contributionsFrom registry index seen left).flatMap read =
        (contributionsFrom registry index seen right).flatMap read := by
  induction same with
  | nil => exact fun _ _ => rfl
  | @cons block other rest others here _ ih =>
    intro index seen
    have typed : (contribution registry index seen block).typeId =
        (contribution registry index seen other).typeId := by
      rw [contribution, contribution, here]
      cases registry.lookup? other.typeId with
      | none => rfl
      | some definition => exact congrArg some here
    have after : seenAfter seen (contribution registry index seen block) =
        seenAfter seen (contribution registry index seen other) := by
      rw [seenAfter, seenAfter, typed]
    rw [contributionsFrom, contributionsFrom, List.flatMap_cons, List.flatMap_cons, after, ih,
      each index seen block other here]

section Shared

variable {left right : Block} (same : left.typeId = right.typeId)
include same

theorem style?_congr : Registry.standard.style? left = Registry.standard.style? right := by
  rw [Registry.style?, Registry.style?, ← same, lookup?_standard]
  cases found : drawingOf? left.typeId with
  | none => rfl
  | some drawing =>
    obtain ⟨text, css⟩ := (isSound_of_drawingOf? found).css
    simp [Block.outcome, Definition.render, Definition.template, css, Template.constant]

theorem script?_congr : Registry.standard.script? left = Registry.standard.script? right := by
  rw [Registry.script?, Registry.script?, ← same, lookup?_standard]
  cases found : drawingOf? left.typeId with
  | none => rfl
  | some drawing =>
    obtain ⟨text, js⟩ := (isSound_of_drawingOf? found).js
    simp [Block.outcome, Definition.render, Definition.template, js, Template.constant]

end Shared

section Layouts

variable (settings : Settings) {left right : List Block}
  (same : sameLayoutBy Scalar.maybeEqual left right = true)
include same

/-- Equal layouts have the same types in order. -/
theorem typeIds_of_sameLayout :
    List.Forall₂ (fun block other => block.typeId = other.typeId) left right :=
  (sameLayoutBy_iff.mp same).imp fun _ _ here => (Block.sameStructureBy_iff.mp here).1

/-- Pages of equal layouts have the same styles. -/
theorem css_of_sameLayout : (standardTree settings left).css = (standardTree settings right).css := by
  refine congrArg (List.cons _) (flatMap_contributionsFrom_congr _ _ ?_ (typeIds_of_sameLayout same) 0 [])
  intro index seen block other here
  rw [css_contribution, css_contribution, here, style?_congr here]

/-- Pages of equal layouts have the same scripts. -/
theorem js_of_sameLayout : (standardTree settings left).js = (standardTree settings right).js := by
  refine flatMap_contributionsFrom_congr _ _ ?_ (typeIds_of_sameLayout same) 0 []
  intro index seen block other here
  rw [js_contribution, js_contribution, here, script?_congr here]

/-- Pages of equal layouts of the same forms have the same fragments. -/
theorem html_of_sameLayout (forms : List.Forall₂ Block.SameForms left right) :
    (standardTree settings left).html = (standardTree settings right).html := by
  have drawn : left.flatMap pictures = right.flatMap pictures := by
    have structures := sameLayoutBy_iff.mp same
    clear same
    induction forms with
    | nil => rfl
    | cons here _ ih =>
      cases structures with
      | cons first rest => rw [List.flatMap_cons, List.flatMap_cons, pictures_congr first here, ih rest]
  show (contributionsFrom _ 0 [] left).flatMap _ = (contributionsFrom _ 0 [] right).flatMap _
  rw [html_standard, html_standard, drawn]

end Layouts

/-! ### Pages -/

/-- **Equal layouts are the same page but for the kinds of numbers.** Over the standard library the pages of
two layouts that can be found equal have the same style, script and warnings, whatever the keys of their
configurations are ordered like and whichever handles their blocks have. They have the same markup too, if
the equal values that templates show as texts are of one kind, and zeros of one sign; the values of switches,
and those under other keys, may be of any kind. A NaN in both layouts may count as equal or not. -/
theorem generate_sameLayout (settings : Settings) {left right : List Block} (theme : Theme)
    (page : PageSettings) (extras : List (Text × Value))
    (same : sameLayoutBy Scalar.maybeEqual left right = true) :
    ∃ generation other,
      Generator.generate ⟨Registry.standard, settings⟩ (.list (left.map .block)) (.theme theme)
        (.pageSettings page extras) = .ok generation ∧
      Generator.generate ⟨Registry.standard, settings⟩ (.list (right.map .block)) (.theme theme)
        (.pageSettings page extras) = .ok other ∧
      generation.output.css = other.output.css ∧ generation.output.js = other.output.js ∧
      generation.warnings = other.warnings ∧
      (List.Forall₂ Block.SameForms left right → generation.output.html = other.output.html) := by
  refine ⟨_, _, generate_blocks settings left theme page extras,
    generate_blocks settings right theme page extras, ?_, ?_, ?_, fun forms => ?_⟩
  · show compileStyle _ theme page = compileStyle _ theme page
    rw [compileStyle, compileStyle, css_of_sameLayout settings same]
  · show compileScript _ page = compileScript _ page
    rw [compileScript, compileScript, js_of_sameLayout settings same]
  · have typeIds : left.map (fun block => Value.text block.typeId) =
        right.map fun block => Value.text block.typeId := by
      rw [← List.forall₂_eq_eq_eq, List.forall₂_map_left_iff, List.forall₂_map_right_iff]
      exact (typeIds_of_sameLayout same).imp fun _ _ here => congrArg Value.text here
    show landmarkWarnings _ _ _ = landmarkWarnings _ _ _
    rw [typeIds]
  · show document _ _ theme page .linked = document _ _ theme page .linked
    rw [document, document, documentMiddle, documentMiddle, documentBody, documentBody,
      html_of_sameLayout settings same forms]

/-- A navigation bar with an integer as its switch, and a NaN. -/
def numberedBar : Config := .ofList [("brand", .text "Acme"), ("cta", .float .nan), ("sticky", .integer 1)]

/-- The same bar with a truth value as its switch, which comes first, and with the same NaN. -/
def switchedBar : Config := .ofList [("sticky", .boolean true), ("brand", .text "Acme"), ("cta", .float .nan)]

/-- A navigation bar and a block of a type that is not registered. -/
def barBlocks : List Block :=
  [{ typeId := "navbar", config := numberedBar, instanceId := some "a" },
    { typeId := "map", config := .ofList [("zoom", .integer 7)] }]

/-- The same with keys in another order, without handles, and with values of other kinds. -/
def otherBarBlocks : List Block :=
  [{ typeId := "navbar", config := switchedBar },
    { typeId := "map", config := .ofList [("zoom", .float (.ofInt 7))] }]

/-- The kinds differ for a switch and for a block that is not drawn. -/
theorem sameForms_bar : List.Forall₂ Block.SameForms barBlocks otherBarBlocks := by
  have navigation : drawingOf? "navbar" =
      some (.ofView navbar Navbar.uses Navbar.read Navbar.markup .full) := rfl
  have unknown : drawingOf? "map" = none := rfl
  have brand : numberedBar.get? "brand" = some (.text "Acme") ∧
      switchedBar.get? "brand" = some (.text "Acme") := by
    decide
  have action : numberedBar.get? "cta" = some (.float .nan) ∧
      switchedBar.get? "cta" = some (.float .nan) := by
    decide
  have absent : numberedBar.get? "links" = none := by decide
  refine .cons (fun drawing found => ?_) (.cons (fun drawing found => ?_) .nil)
  · obtain rfl := Option.some.inj (navigation.symm.trans found)
    show ∀ use ∈ Navbar.uses, use.2 ≠ .switch → ∀ value other, numberedBar.get? use.1 = some value →
      switchedBar.get? use.1 = some other → value.SameForm other
    simp only [Navbar.uses, List.forall_mem_cons, brand, action, absent]
    refine ⟨fun _ value other own own' => ?_, fun _ value other own => ?_,
      fun _ value other own own' => ?_, fun switch => absurd rfl switch, List.forall_mem_nil _⟩
    · cases own
      cases own'
      trivial
    · cases own
    · cases own
      cases own'
      rfl
  · cases unknown.symm.trans found

/-- The NaN makes them equal as an object only. -/
theorem generate_sameLayout_bar : sameLayoutBy Scalar.maybeEqual barBlocks otherBarBlocks = true ∧
    sameLayout barBlocks otherBarBlocks = false ∧ ∃ generation other,
      Generator.generate ⟨Registry.standard, {}⟩ (.list (barBlocks.map .block)) (.theme {})
        (.pageSettings {} []) = .ok generation ∧
      Generator.generate ⟨Registry.standard, {}⟩ (.list (otherBarBlocks.map .block)) (.theme {})
        (.pageSettings {} []) = .ok other ∧
      generation.output.css = other.output.css ∧ generation.output.js = other.output.js ∧
      generation.warnings = other.warnings ∧ generation.output.html = other.output.html := by
  have same : sameLayoutBy Scalar.maybeEqual barBlocks otherBarBlocks = true := by decide +kernel
  obtain ⟨generation, other, generated, generated', css, js, warnings, html⟩ :=
    generate_sameLayout {} {} {} [] same
  exact ⟨same, by decide +kernel, generation, other, generated, generated', css, js, warnings, html sameForms_bar⟩

/-! ### Numbers of different kinds -/

/-- A section whose title is a number. -/
def numbered (title : Scalar) : Block :=
  { typeId := "section", config := .ofList [("title", title), ("subtitle", .text [])] }

/-- The section that a title alone is drawn as. -/
def titleSection (title : Text) : GenericSection := ⟨title, [], false⟩

theorem pictures_numbered :
    pictures (numbered (.integer 1)) = [(titleSection "1").markup.trimmed] ∧
      pictures (numbered (.float (.ofInt 1))) = [(titleSection "1.0").markup.trimmed] := by
  let drawing : Drawing :=
    .ofView genericSection GenericSection.uses GenericSection.read GenericSection.markup .full
  have found : drawingOf? "section" = some drawing := rfl
  have reads : ∀ written ∈ [(Scalar.integer 1, Text.ofString "1"), (.float (.ofInt 1), "1.0")],
      GenericSection.read ((numbered written.1).drawn drawing) = .ok (titleSection written.2) := by
    have texts : ∀ written ∈ [(Scalar.integer 1, Text.ofString "1"), (.float (.ofInt 1), "1.0")],
        entryText ((numbered written.1).drawn drawing) "title" = .ok written.2 ∧
        entryText ((numbered written.1).drawn drawing) "subtitle" = .ok [] ∧
        entryText ((numbered written.1).drawn drawing) "bg" = .ok (Text.ofString "default") := by
      decide +kernel
    intro written inside
    obtain ⟨title, subtitle, background⟩ := texts written inside
    rw [GenericSection.read, title, subtitle, background]
    rfl
  have drawn : ∀ (title : Scalar) (written : Text),
      GenericSection.read ((numbered title).drawn drawing) = .ok (titleSection written) →
        pictures (numbered title) = [(titleSection written).markup.trimmed] := by
    intro title written read
    have draw : drawing.draw ((numbered title).drawn drawing) = .ok (titleSection written).markup :=
      congrArg (Except.map GenericSection.markup) read
    have typed : drawingOf? (numbered title).typeId = some drawing := found
    rw [pictures, typed]
    dsimp only
    rw [draw]
  simp only [List.forall_mem_cons] at reads
  exact ⟨drawn _ _ reads.1, drawn _ _ reads.2.1⟩

/-- The document tells what its only block is drawn as. -/
theorem html_inj {settings : Settings} {theme : Theme} {page : PageSettings} {left right : Block}
    {markup other : Markup} (drawn : pictures left = [markup]) (drawn' : pictures right = [other])
    (same : (standardPage settings [left] theme page).output.html =
      (standardPage settings [right] theme page).output.html) : markup.render = other.render := by
  have html : ∀ {block : Block} {markup : Markup}, pictures block = [markup] →
      (standardTree settings [block]).html = [markup.render] := by
    intro block markup drawn
    show (contributionsFrom _ 0 [] [block]).flatMap _ = _
    rw [html_standard, List.flatMap_singleton, drawn]
    rfl
  simpa [standardPage, compileOutput, document, documentMiddle, documentBody, html drawn, html drawn',
    Text.concat, Text.join] using same

/-- Equal numbers of different kinds may be shown differently. -/
theorem generate_sameLayout_kinds :
    sameLayout [numbered (.integer 1)] [numbered (.float (.ofInt 1))] = true ∧ ∃ generation other,
      Generator.generate ⟨Registry.standard, {}⟩ (.list [.block (numbered (.integer 1))]) (.theme {})
        (.pageSettings {} []) = .ok generation ∧
      Generator.generate ⟨Registry.standard, {}⟩ (.list [.block (numbered (.float (.ofInt 1)))]) (.theme {})
        (.pageSettings {} []) = .ok other ∧
      generation.output.html ≠ other.output.html := by
  refine ⟨by decide +kernel, _, _, generate_blocks {} [_] {} {} [], generate_blocks {} [_] {} {} [],
    fun same => ?_⟩
  obtain ⟨whole, fraction⟩ := pictures_numbered
  have shown := html_inj whole fraction same
  have escaped : Text.escape (Text.ofString "1") = Text.escape (Text.ofString "1.0") := by
    have filled : Text.ofString "1" ≠ [] ∧ Text.ofString "1.0" ≠ [] := by decide
    simpa [titleSection, GenericSection.markup, headingMarkup, Markup.render, Markup.trimmed, Piece.render,
      Markup.when, Markup.whenText, Markup.concat, Markup.shown, filled] using shown
  exact absurd escaped (by decide)

end BlockPage
