/-
**The journal.**

What operations report about themselves is a function of their arguments, so it is computed beside
them. A level keeps the events that are at least as severe.

* `Event`: a named event of a part of the program, with its severity and context.
* `Level.ofWord`, `Level.ofValue`, `Level.keeps`: which events a level keeps.
* `Journal.compiling`, `Journal.resolving`, `Journal.generating`, … : the events of each operation.
-/

import BlockPage.Canvas
import BlockPage.Intake.Source

namespace BlockPage

/-- The severity of events. -/
inductive Level where
  | debug
  | info
  | warning
  | error
  | critical
  deriving DecidableEq, Repr

namespace Level

/-- The order of severities. -/
def rank : Level → Nat
  | debug => 10
  | info => 20
  | warning => 30
  | error => 40
  | critical => 50

/-- The word for a severity. -/
def word : Level → Text
  | debug => "debug"
  | info => "info"
  | warning => "warning"
  | error => "error"
  | critical => "critical"

/-- The capital form of a code point, as far as the words of levels need it. -/
def capital (point : CodePoint) : Text :=
  if point = 0x131 then "I"
  else if point = 0x17F then "S"
  else if point = 0xFB05 || point = 0xFB06 then "ST"
  else [CodePoint.toUpper point]

/-- A word in capitals. -/
def capitals (word : Text) : Text := word.flatMap capital

/-- The words for levels. Unset keeps what is kept where nothing is set. -/
def words : List (Text × Level) :=
  [("DEBUG", debug), ("INFO", info), ("WARNING", warning), ("WARN", warning), ("ERROR", error),
    ("CRITICAL", critical), ("FATAL", critical), ("NOTSET", warning)]

/-- The words that name something else, with what is said of them. -/
def reserved : List (Text × Problem) :=
  [("BASIC_FORMAT", .badValue "Unknown level: '%(levelname)s:%(name)s:%(message)s'"),
    ("_STYLES", .typeMismatch (Text.concat [
      "Level not an integer or a valid string: \x7b",
      "'%': (<class 'logging.PercentStyle'>, '%(levelname)s:%(name)s:%(message)s'), ",
      "'\x7b': (<class 'logging.StrFormatStyle'>, '\x7blevelname\x7d:\x7bname\x7d:\x7bmessage\x7d'), ",
      "'$': (<class 'logging.StringTemplateStyle'>, '$\x7blevelname\x7d:$\x7bname\x7d:$\x7bmessage\x7d')\x7d"]))]

/-- The entry of a word in any case. -/
def entryOf? {α : Type} (entries : List (Text × α)) (word : Text) : Option α :=
  (entries.find? fun entry => entry.1 = capitals word).map Prod.snd

/-- The level that a word names in any case; a word that names nothing stands for information. -/
def ofWord (word : Text) : Except Problem Level :=
  match entryOf? reserved word with
  | some problem => .error problem
  | none => .ok ((entryOf? words word).getD info)

/-- The level that a value names, which must be a text. -/
def ofValue : Value → Except Problem Level
  | .scalar (.text word) => ofWord word
  | other => .error (other.missingMethod "upper")

/-- The level keeps events of a severity. -/
def keeps (level severity : Level) : Bool := level.rank ≤ severity.rank

end Level

/-- An event of a part of the program. -/
structure Event where
  source : Text
  level : Level
  name : Text
  context : List (Text × Value)

/-- Events in order. -/
abbrev Journal := List Event

namespace Journal

/-- The events that a level keeps. -/
def kept (level : Level) (journal : Journal) : Journal :=
  journal.filter fun event => level.keeps event.level

/-- A number in a context. -/
def count (number : Nat) : Value := .integer number

/-- Events of one page, which carry the mark of its generation. -/
def ofGeneration (journal : Journal) : Journal :=
  let mark : List (Text × Value) := [("generation_id", .boolean true)]
  journal.map fun event => { event with context := event.context ++ mark }

/-! ### Layouts -/

/-- An event of the compiler of layouts. -/
def layoutEvent (level : Level) (name : Text) (context : List (Text × Value)) : Event :=
  ⟨"pagecraft.dsl.parser", level, name, context⟩

/-- The events of a compilation within a limit. -/
def compiling (source : Text) (limit : Value) : Journal :=
  match Intake.compileSource (.text source) limit with
  | .error _ => []
  | .ok (.ok blocks) => [layoutEvent .debug "dsl_compiled" [("blocks", count blocks.length)]]
  | .ok (.error [⟨.tooLong length _, _⟩]) =>
    [layoutEvent .warning "dsl_source_too_large" [("length", count length), ("limit", limit)]]
  | .ok (.error errors) =>
    if (Layout.scan source).errors.isEmpty then
      errors.map fun error => layoutEvent .info "dsl_parse_failed" [("error", .text error.text)]
    else [layoutEvent .info "dsl_lex_failed" [("errors", count errors.length)]]

/-! ### Block types -/

/-- An event of a registry. -/
def registryEvent (level : Level) (name : Text) (context : List (Text × Value)) : Event :=
  ⟨"pagecraft.blocks.registry", level, name, context⟩

/-- The events of a registration. -/
def registering (registry : Registry) (definition : Definition) : Journal :=
  (if registry.contains definition.typeId then
      [registryEvent .warning "block_replaced" [("type_id", .text definition.typeId)]]
    else [])
    ++ [registryEvent .debug "block_registered"
      [("type_id", .text definition.typeId), ("name", .text definition.name)]]

/-- The events of the removal of a type. -/
def unregistering (registry : Registry) (typeId : Text) : Journal :=
  if registry.contains typeId then
    [registryEvent .info "block_unregistered" [("type_id", .text typeId)]]
  else []

/-- The events of registrations one after the other. -/
def registeringAll (registry : Registry) : List Definition → Journal
  | [] => []
  | definition :: rest =>
    registering registry definition ++ registeringAll (registry.register definition) rest

/-! ### Pages -/

/-- An event of the resolution of pages. -/
def resolverEvent (level : Level) (name : Text) (context : List (Text × Value)) : Event :=
  ⟨"pagecraft.pipeline.resolver", level, name, context⟩

/-- An event of the generation of pages. -/
def generatorEvent (level : Level) (name : Text) (context : List (Text × Value)) : Event :=
  ⟨"pagecraft.pipeline.generator", level, name, context⟩

/-- The place of a block in a context. -/
def placeOf (site : Site) : List (Text × Value) :=
  [("type_id", site.typeId), ("index", count site.index)]

/-- The event of a type that is not registered, unless it cannot be written. -/
def unknownBlock (site : Site) : Journal :=
  match site.typeId.inspect with
  | some _ => [resolverEvent .warning "unknown_block" (placeOf site)]
  | none => []

/-- The event of a template that failed. -/
def templateFailed (site : Site) (part : Part) (report : Report) : Event :=
  let failure : List (Text × Value) := [("part", .text part.word), ("error", .text report.error)]
  resolverEvent .error "template_failed" (placeOf site ++ failure)

/-- The events of the templates of a block, up to the first part that refuses the page. -/
def rendering (definition : Definition) (site : Site) (config : Value) : List Part → Journal
  | [] => []
  | part :: rest =>
    match renderPart definition part config with
    | .error _ => []
    | .ok (.ok _) => rendering definition site config rest
    | .ok (.error report) =>
      templateFailed site part report ::
        match site.diagnostic (.part part) report.message with
        | .error _ => []
        | .ok _ => rendering definition site config rest

/-- The events of the block at a place. -/
def contributing (registry : Registry) (index : Nat) (seen : List Text) (placement : Placement) :
    Journal :=
  match placement.typeId with
  | .error _ => []
  | .ok typeId =>
    let site : Site := ⟨index, typeId, placement.instanceId⟩
    match registry.find typeId with
    | .error _ => []
    | .ok none => unknownBlock site
    | .ok (some definition) =>
      rendering definition site placement.config
        (if seen.contains definition.typeId then [.html] else Part.all)

/-- The events of blocks from a place on, up to the first that refuses the page. -/
def contributingAll (registry : Registry) (index : Nat) (seen : List Text) :
    List Placement → Journal
  | [] => []
  | placement :: rest =>
    contributing registry index seen placement ++
      match contribute registry index seen placement with
      | .error _ => []
      | .ok contribution => contributingAll registry (index + 1) (seenAfter seen contribution) rest

/-- The event of contributions that have been put together. -/
def resolved (parts : List Contribution) : Event :=
  let tree := assemble .absent .absent [] parts
  resolverEvent .debug "resolved"
    [("block_count", count parts.length), ("html_fragments", count tree.html.length),
      ("css_fragments", count tree.css.length), ("js_fragments", count tree.js.length),
      ("diagnostics", count tree.diagnostics.length)]

/-- The events of a resolution. -/
def resolving (registry : Registry) (placements : List Placement) : Journal :=
  contributingAll registry 0 [] placements ++
    match contributions registry placements with
    | .error _ => []
    | .ok parts => [resolved parts]

/-- The event of a new generator. -/
def initialized : Event :=
  generatorEvent .info "initialized" [("compiler", .text "TemplateOutputCompiler")]

/-- The event of advice, if there is any. -/
def advising (warnings : List LandmarkWarning) : Journal :=
  if warnings.isEmpty then []
  else [generatorEvent .debug "layout_warnings"
    [("warnings", .list (warnings.map fun warning => .text warning.message))]]

/-- The events of advice on blocks. -/
def advisingOn (generator : Generator) (placements : List Placement) : Journal :=
  match generator.adviseBlocks placements with
  | .error _ => []
  | .ok warnings => advising warnings

/-- The events of a page in three files. -/
def generating (generator : Generator) (placements : List Placement) : Journal :=
  match generator.adviseBlocks placements with
  | .error _ => []
  | .ok warnings =>
    ofGeneration (advising warnings ++ resolving generator.registry placements
      ++ match generator.resolveBlocks placements with
        | .error _ => []
        | .ok tree =>
          [generatorEvent .info "generated"
            [("blocks", count placements.length), ("warnings", count warnings.length),
              ("diagnostics", count tree.diagnostics.length)]])

/-- The events of a page as one document. -/
def previewing (generator : Generator) (placements : List Placement) : Journal :=
  ofGeneration (resolving generator.registry placements
    ++ match generator.resolveBlocks placements with
      | .error _ => []
      | .ok tree =>
        [generatorEvent .debug "previewed"
          [("blocks", count placements.length), ("diagnostics", count tree.diagnostics.length)]])

/-- The events of an import, with those of the use of so many blocks. -/
def importing (generator : Generator) (source : Text) (applying : Nat → Journal) :
    Journal :=
  compiling source (.integer generator.settings.sourceLimit) ++
    match generator.importLayout source with
    | .error errors => [generatorEvent .info "import_rejected" [("errors", count errors.length)]]
    | .ok blocks =>
      applying blocks.length ++ [generatorEvent .info "imported" [("blocks", count blocks.length)]]

/-! ### Canvases -/

/-- An event of a canvas. -/
def canvasEvent (level : Level) (name : Text) (context : List (Text × Value)) : Event :=
  ⟨"pagecraft.canvas", level, name, context⟩

/-- The event of a block that has been added. -/
def adding (typeId id : Text) : Event :=
  canvasEvent .debug "block_added" [("type_id", .text typeId), ("instance_id", .text id)]

/-- The event of a block that has been removed. -/
def removing (id : Value) : Event :=
  canvasEvent .debug "block_removed" [("instance_id", id)]

/-- The event of so many blocks that replace all others. -/
def replacing (number : Nat) : Event :=
  canvasEvent .info "blocks_replaced" [("blocks", count number)]

end Journal

end BlockPage
