/-
**Results from loose values.**

What the operations give can be described and read back as well: diagnostics, summaries, fragments and
generated pages. Each has named parts, read leniently.

* `readDiagnostic`, `readSummary`, `readRenderTree`, `readOutput`, `readNotice`, `readGeneration`;
  `readFragments` takes sequences of any kind for the fragments.
* `Component`: a named part of a result, a plain value or a result of its own.
* `diagnosticFields`, `summaryFields`, `treeFields`, `outputFields`: the named parts.
* `describe`: a value of a named description as its parts, with the parts beyond the described ones.
-/

import BlockPage.Intake.Block
import BlockPage.Intake.Look
import BlockPage.Page.Document

namespace BlockPage.Intake

/-- A nested value with named parts. -/
def readNested {α : Type} (reader : Entries → Checked α) : Reader α
  | .map entries => reader entries
  | _ => .issue .modelType

/-- A diagnostic from its parts. -/
def readDiagnostic (entries : Entries) : Checked Diagnostic :=
  Diagnostic.mk <$> required entries "index" readInteger
    <*> required entries "type_id" (readText .lenient)
    <*> optional entries "instance_id" none (readOption (readText .lenient))
    <*> required entries "stage" (readChoice Stage.all Stage.word)
    <*> required entries "message" (readText .lenient)

/-- A summary from its parts. -/
def readSummary (entries : Entries) : Checked Summary :=
  Summary.mk <$> optional entries "block_count" 0 readInteger
    <*> optional entries "type_ids" [] (readTuple (readText .lenient))
    <*> optional entries "has_nav" false readBoolean
    <*> optional entries "has_footer" false readBoolean

/-- The fragments of a page from their parts. -/
def readRenderTree (entries : Entries) : Checked RenderTree :=
  RenderTree.mk <$> optional entries "html" [] (readTuple (readText .lenient))
    <*> optional entries "css" [] (readTuple (readText .lenient))
    <*> optional entries "js" [] (readTuple (readText .lenient))
    <*> optional entries "meta" {} (readNested readSummary)
    <*> optional entries "diagnostics" [] (readTuple (readNested readDiagnostic))

/-- The fragments of a page from sequences of any kind. -/
def readFragments (entries : Entries) : Except Problem RenderTree := do
  let given : List Text := ["html", "css", "js"]
  let parts ← given.filterMapM fun name =>
    match entries.get? name with
    | none => .ok none
    | some value => value.items.map fun items => some (Value.text name, Value.list items)
  (readRenderTree parts).toExcept

/-- A page in three files from its parts. -/
def readOutput (entries : Entries) : Checked Output :=
  Output.mk <$> required entries "html" (readText .lenient)
    <*> required entries "css" (readText .lenient)
    <*> required entries "js" (readText .lenient)

/-! ### Named parts -/

/-- An integer or nothing. -/
def ofIntegerOption : Option Int → Value
  | none => .absent
  | some value => .integer value

/-- Texts as a list. -/
def ofTexts (texts : List Text) : Value := .list (texts.map Value.text)

/-- The named parts of a diagnostic. -/
def diagnosticFields (diagnostic : Diagnostic) : List (Text × Value) :=
  [("index", .integer diagnostic.index), ("type_id", .text diagnostic.typeId),
    ("instance_id", .ofOption diagnostic.instanceId), ("stage", .text diagnostic.stage.word),
    ("message", .text diagnostic.message)]

/-- The named parts of a summary. -/
def summaryFields (summary : Summary) : List (Text × Value) :=
  [("block_count", .integer summary.blockCount), ("type_ids", ofTexts summary.typeIds),
    ("has_nav", .boolean summary.hasNavigation), ("has_footer", .boolean summary.hasFooter)]

/-- A part of a result: a plain value, or a result of its own. -/
inductive Component where
  | plain (value : Value)
  | summary (summary : Summary)
  | diagnostics (diagnostics : List Diagnostic)

/-- Named values as parts. -/
def components (fields : List (Text × Value)) : List (Text × Component) :=
  fields.map fun field => (field.1, .plain field.2)

/-- The named parts of the fragments of a page. -/
def treeFields (tree : RenderTree) : List (Text × Component) :=
  [("html", .plain (ofTexts tree.html)), ("css", .plain (ofTexts tree.css)),
    ("js", .plain (ofTexts tree.js)), ("meta", .summary tree.summary),
    ("diagnostics", .diagnostics tree.diagnostics)]

/-- The named parts of a page in three files. -/
def outputFields (output : Output) : List (Text × Value) :=
  [("html", .text output.html), ("css", .text output.css), ("js", .text output.js)]

/-- A message with an optional position, as its parts. -/
def readNotice (entries : Entries) : Checked (List (Text × Value)) :=
  (fun message line column =>
      [("message", Value.text message), ("line", ofIntegerOption line),
        ("column", ofIntegerOption column)])
    <$> required entries "message" (readText .lenient)
    <*> optional entries "line" none (readOption readInteger)
    <*> optional entries "column" none (readOption readInteger)

/-- A generated page with its findings, as its parts. -/
def readGeneration (entries : Entries) : Checked (List (Text × Component)) :=
  (fun output warnings diagnostics =>
      let found : List (Text × Component) :=
        [("warnings", .plain (ofTexts warnings)), ("diagnostics", .diagnostics diagnostics)]
      components (outputFields output) ++ found)
    <$> readOutput entries
    <*> optional entries "warnings" [] (readList (readText .lenient))
    <*> optional entries "diagnostics" [] (readList (readNested readDiagnostic))

/-- A reading of a value that has plain parts only. -/
def plainly {α : Type} (reader : Entries → Checked α) (fields : α → List (Text × Value))
    (entries : Entries) : Checked (List (Text × Component)) :=
  (reader entries).map fun value => components (fields value)

/-- The descriptions by name. -/
def descriptions : List (Text × (Entries → Checked (List (Text × Component)))) :=
  [("Theme", plainly readTheme Value.themeFields),
    ("PageSettings", plainly readPageSettings Value.pageFields),
    ("BlockInstance", plainly readBlock Value.blockFields),
    ("DSLError", plainly readNotice id),
    ("Diagnostic", plainly readDiagnostic diagnosticFields),
    ("Meta", plainly readSummary summaryFields),
    ("GeneratedOutput", plainly readOutput outputFields),
    ("GenerationResult", readGeneration),
    ("RenderTree", fun entries => (readRenderTree entries).map treeFields)]

/-- The parts of a value under a named description, and the parts beyond the described ones where the
description keeps them. -/
def describe (name : Text) (entries : Entries) :
    Option (Checked (List (Text × Component) × List (Text × Value))) :=
  (descriptions.find? fun description => description.1 = name).map fun description =>
    (description.2 entries).map fun fields =>
      (fields, if name = Text.ofString "PageSettings" then pageExtras entries else [])

end BlockPage.Intake
