/-
**From blocks to fragments.**

Every block contributes its markup. The first block of each type also contributes the style and the
script of the type. What fails is reported and contributes nothing. Only what cannot even be reported
refuses the page: a configuration that is no map, a part that should be a text and is none, a failure
that has no text. Besides, a page should start with its navigation and end with its only footer.

* `renderPart`: what a template gives for a configuration; `Report`: what is said of its failure.
* `Contribution`: what one block adds; `contribute`: the contribution of a block.
* `resolve`: the fragments of a page.
* `LandmarkWarning`: the four findings about landmarks with their wording; `landmarkWarnings`: those that
  apply to the types of blocks, each looked at on its own; `adviseOn`: to blocks, which must all have one.
-/

import BlockPage.Block.Placement
import BlockPage.Page.Assets
import BlockPage.Registry

namespace BlockPage

/-- What one block adds to a page. `typeId` is its type when that is registered. -/
structure Contribution where
  typeId : Option Text := none
  html : List Text := []
  css : List Text := []
  js : List Text := []
  diagnostics : List Diagnostic := []

namespace Contribution

/-- A fragment, unless it is blank. -/
def fragment (text : Text) : List Text := if text.isEmpty then [] else [text]

end Contribution

/-! ### One part of a block -/

/-- What is said of the failure of a template: its wording alone, and behind its name. -/
structure Report where
  error : Text
  message : Text
  deriving DecidableEq, Repr

namespace Report

/-- A value that is no text in place of a part. -/
def notText (part : Part) (found : Value) : Report :=
  let error := Text.concat [part.word, " template returned ", found.kindName, ", expected str"]
  ⟨error, Text.concat [Problem.Kind.typeMismatch.name, ": ", error]⟩

/-- A failure, unless it has no text. -/
def ofFailure (failure : Failure) : Except Problem Report :=
  match failure.message? with
  | some error => .ok ⟨error, Text.concat [failure.name, ": ", error]⟩
  | none => .error Value.tooLongToWrite

end Report

/-- The text of a template without blanks around it, or the report of its failure. -/
def renderPart (definition : Definition) (part : Part) (config : Value) :
    Except Problem (Except Report Text) := do
  let entries ← config.toEntries
  match definition.render part entries with
  | .produced (.scalar (.text text)) => return .ok (Text.strip text)
  | .produced other => return .error (.notText part other)
  | .failed failure => return .error (← Report.ofFailure failure)

/-- The block at a place, as diagnostics name it. -/
structure Site where
  index : Nat
  typeId : Value
  instanceId : Value

/-- A diagnostic about the block at a place, whose type and handle must be texts. -/
def Site.diagnostic (site : Site) (stage : Stage) (message : Text) : Except Problem Diagnostic :=
  let typeId := (Intake.readText .lenient site.typeId).under (.name "type_id")
  let instanceId :=
    (Intake.readOption (Intake.readText .lenient) site.instanceId).under (.name "instance_id")
  ((fun typeId instanceId => Diagnostic.mk site.index typeId instanceId stage message)
    <$> typeId <*> instanceId).toExcept

/-- The fragments of a part, with the diagnostic of its failure. -/
def contributePart (definition : Definition) (site : Site) (config : Value) (part : Part) :
    Except Problem (List Text × List Diagnostic) := do
  match ← renderPart definition part config with
  | .ok text => return (Contribution.fragment text, [])
  | .error report =>
    let diagnostic ← site.diagnostic (.part part) report.message
    return ([], [diagnostic])

/-! ### One block -/

/-- The line above the style of a type. -/
def styleBanner (name : Text) : Text := Text.concat ["/* --- ", name, " --- */"]

/-- The style of a type below its banner. -/
def bannered (definition : Definition) (style : Text) : Text :=
  styleBanner definition.name ++ CodePoint.newline :: style

/-- What a block of a registered type adds. `first` says that no earlier block has its type. -/
def contributeKnown (definition : Definition) (site : Site) (config : Value) (first : Bool) :
    Except Problem Contribution := do
  let html ← contributePart definition site config .html
  if first then
    let css ← contributePart definition site config .css
    let js ← contributePart definition site config .js
    return { typeId := some definition.typeId
             html := html.1
             css := css.1.map (bannered definition)
             js := js.1
             diagnostics := html.2 ++ css.2 ++ js.2 }
  else return { typeId := some definition.typeId, html := html.1, diagnostics := html.2 }

/-- What a block of a type that is not registered adds. -/
def contributeUnknown (site : Site) : Except Problem Contribution := do
  let message ← Registry.unknownTypeMessage site.typeId
  let diagnostic ← site.diagnostic .lookup message
  return { diagnostics := [diagnostic] }

/-- What the block at a place adds. `seen` are the types that have contributed. -/
def contribute (registry : Registry) (index : Nat) (seen : List Text) (placement : Placement) :
    Except Problem Contribution := do
  let typeId ← placement.typeId
  let site : Site := ⟨index, typeId, placement.instanceId⟩
  match ← registry.find typeId with
  | none => contributeUnknown site
  | some definition =>
    contributeKnown definition site placement.config (!seen.contains definition.typeId)

/-! ### All blocks -/

/-- The types that have contributed behind one more contribution. -/
def seenAfter (seen : List Text) (contribution : Contribution) : List Text :=
  match contribution.typeId with
  | none => seen
  | some typeId => if seen.contains typeId then seen else typeId :: seen

/-- The contributions of blocks from a place on, in reverse, behind those of earlier blocks. -/
def contributeAll (registry : Registry) (index : Nat) (seen : List Text)
    (done : List Contribution) : List Placement → Except Problem (List Contribution)
  | [] => .ok done
  | placement :: rest =>
    match contribute registry index seen placement with
    | .error problem => .error problem
    | .ok contribution =>
      contributeAll registry (index + 1) (seenAfter seen contribution) (contribution :: done) rest

/-- What each block adds, in order. -/
def contributions (registry : Registry) (placements : List Placement) :
    Except Problem (List Contribution) :=
  (contributeAll registry 0 [] [] placements).map List.reverse

/-- The fragments that contributions make below a shared style. -/
def assemble (navigation footer : Value) (baseStyle : Text) (parts : List Contribution) :
    RenderTree :=
  let typeIds := parts.filterMap Contribution.typeId
  { html := parts.flatMap Contribution.html
    css := baseStyle :: parts.flatMap Contribution.css
    js := parts.flatMap Contribution.js
    summary := {
      blockCount := parts.length
      typeIds
      hasNavigation := typeIds.any (navigation.isText ·)
      hasFooter := typeIds.any (footer.isText ·) }
    diagnostics := parts.flatMap Contribution.diagnostics }

/-- The shared style as the first of the styles, which must be texts. -/
def readBaseStyle (registry : Registry) : Except Problem Text :=
  (((Intake.readText .lenient registry.baseStyle).under (.index 0)).under (.name "css")).toExcept

/-- The fragments of a page whose landmarks have the given types. -/
def resolve (registry : Registry) (navigation footer : Value) (placements : List Placement) :
    Except Problem RenderTree := do
  let parts ← contributions registry placements
  let baseStyle ← readBaseStyle registry
  return assemble navigation footer baseStyle parts

/-! ### Advice on landmarks -/

/-- A finding about the landmarks of a page. -/
inductive LandmarkWarning where
  | footerNotLast
  | navigationNotFirst
  | noFooter
  | noNavigation
  deriving DecidableEq, Repr

/-- The wording of a finding. -/
def LandmarkWarning.message : LandmarkWarning → Text
  | footerNotLast => "Footer should be the last block."
  | navigationNotFirst => "Navbar should be the first block."
  | noFooter => "Consider adding a footer block."
  | noNavigation => "Consider adding a navbar block."

/-- The findings about a page with blocks of the given types. A landmark is where its type first
occurs. -/
def landmarkWarnings {α : Type} [BEq α] (navigation footer : α) (typeIds : List α) :
    List LandmarkWarning :=
  let footerMisplaced := typeIds.contains footer && typeIds.idxOf footer + 1 != typeIds.length
  let navigationMisplaced := typeIds.contains navigation && typeIds.idxOf navigation != 0
  (if footerMisplaced then [.footerNotLast] else [])
    ++ (if navigationMisplaced then [.navigationNotFirst] else [])
    ++ (if typeIds.contains footer then [] else [.noFooter])
    ++ (if typeIds.contains navigation then [] else [.noNavigation])

/-- The findings about blocks. -/
def adviseOn (navigation footer : Value) (placements : List Placement) :
    Except Problem (List LandmarkWarning) := do
  let typeIds ← placements.mapM Placement.typeId
  return landmarkWarnings navigation footer typeIds

end BlockPage
