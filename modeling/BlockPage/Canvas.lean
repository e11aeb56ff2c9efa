/-
**The canvas.**

An editing session owns an ordered list of blocks, each under a handle, and the page generated last. An
edit changes exactly the block it names; an edit that fails changes nothing. Handles are compared by
value, whatever a caller gives as one.

* `Canvas.add`, `Canvas.remove`, `Canvas.move`, `Canvas.update`: edits of one block.
* `Canvas.replaceBlocks`, `Canvas.clear`, `Canvas.setGenerated`: edits of the whole.
* `Canvas.importLayout`: the blocks of a source in place of those on the canvas.
-/

import BlockPage.Page.Generation

namespace BlockPage

/-- The blocks of an editing session and the page generated last. -/
structure Canvas where
  blocks : List Placement := []
  generated : Option Output := none

/-- The two directions in which a block moves. -/
inductive Direction where
  | up
  | down
  deriving DecidableEq, Repr

/-- The direction that a word names. -/
def Direction.ofWord? (word : Text) : Option Direction :=
  if word = Text.ofString "up" then some .up
  else if word = Text.ofString "down" then some .down
  else none

/-- The direction that a value names. -/
def Direction.ofValue (value : Value) : Except Problem Direction :=
  match value.text?.bind ofWord?, value.inspect with
  | some direction, _ => .ok direction
  | none, some shown =>
    .error (.badValue (Text.ofString "direction must be 'up' or 'down', got " ++ shown))
  | none, none => .error Value.tooLongToWrite

namespace Canvas

/-- The block has a handle. -/
def hasHandle (id : Value) (placement : Placement) : Bool := placement.instanceId.equal id

/-- The place of the first block with a handle. -/
def index? (canvas : Canvas) (id : Value) : Option Nat := canvas.blocks.findIdx? (hasHandle id)

/-- The first block with a handle. -/
def find? (canvas : Canvas) (id : Value) : Option Placement := canvas.blocks.find? (hasHandle id)

/-- The canvas with a block behind the first `count` ones. -/
def insertAt (canvas : Canvas) (count : Nat) (block : Block) : Canvas :=
  { canvas with blocks := canvas.blocks.take count ++ .checked block :: canvas.blocks.drop count }

/-- The refusal of a handle that no block has. -/
def unknownBlock (id : Value) : Problem :=
  match id.displayed with
  | .ok shown => .missingKey (Text.ofString "Unknown block instance: " ++ shown)
  | .error problem => problem

/-- Adds a block of a type under a fresh handle, at the end or behind the first block with another
handle. -/
def add (canvas : Canvas) (registry : Registry) (typeId behind config : Value) (fresh : Text) :
    Except Problem Canvas := do
  let overrides ← (if config.isTruthy then config else .map []).toEntries
  let block ← registry.createBlock typeId overrides fresh
  match behind with
  | .absent => return { canvas with blocks := canvas.blocks ++ [.checked block] }
  | id =>
    match canvas.index? id with
    | none => .error (unknownBlock id)
    | some index => return canvas.insertAt (index + 1) block

/-- Removes the first block with a handle. -/
def remove (canvas : Canvas) (id : Value) : Canvas × Bool :=
  match canvas.index? id with
  | none => (canvas, false)
  | some index => ({ canvas with blocks := canvas.blocks.eraseIdx index }, true)

/-- The list with the items at a place and behind it exchanged. -/
def exchange {α : Type} (index : Nat) (items : List α) : Option (List α) :=
  match items.drop index with
  | first :: second :: rest => some (items.take index ++ second :: first :: rest)
  | _ => none

/-- Exchanges the first block with a handle with its neighbour, if there is one. -/
def move (canvas : Canvas) (id : Value) (direction : Direction) : Canvas × Bool :=
  let moved : Option (List Placement) := do
    let index ← canvas.index? id
    match direction, index with
    | .down, index => exchange index canvas.blocks
    | .up, 0 => none
    | .up, index + 1 => exchange index canvas.blocks
  match moved with
  | none => (canvas, false)
  | some blocks => ({ canvas with blocks }, true)

/-- A block with one entry of its configuration set. All its parts are checked. -/
def updateBlock (placement : Placement) (key value : Value) : Except Problem Block := do
  let typeId ← placement.typeId
  let config ← placement.config.mapping
  key.requireKey
  (Intake.readBlock (Intake.blockEntries typeId (.map (Entries.insert config key value))
    placement.instanceId)).toExcept

/-- Sets one entry of the configuration of the first block with a handle. -/
def update (canvas : Canvas) (id key value : Value) : Except Problem (Canvas × Bool) :=
  match canvas.index? id, canvas.find? id with
  | some index, some placement => do
    let updated ← updateBlock placement key value
    return ({ canvas with blocks := canvas.blocks.set index (.checked updated) }, true)
  | _, _ => return (canvas, false)

/-- The block under its own handle, or under a fresh one when it has none. -/
def withHandle (placement : Placement) (fresh : Text) : Placement :=
  if placement.instanceId.isTruthy then placement else placement.withInstanceId fresh

/-- Puts blocks in place of those on the canvas. The block at a place takes the fresh handle of that
place when it has none. -/
def replaceBlocks (canvas : Canvas) (placements : List Placement) (fresh : Nat → Text) : Canvas :=
  { canvas with blocks := placements.mapIdx fun index placement => withHandle placement (fresh index) }

/-- Removes all blocks. -/
def clear (canvas : Canvas) : Canvas := { canvas with blocks := [] }

/-- Keeps a generated page. -/
def setGenerated (canvas : Canvas) (output : Output) : Canvas :=
  { canvas with generated := some output }

/-- Puts the blocks of a source in place of those on the canvas, or gives the faults of the source and
leaves the canvas as it is. -/
def importLayout (canvas : Canvas) (generator : Generator) (source : Text) (fresh : Nat → Text) :
    Canvas × List Layout.SourceError :=
  match generator.importLayout source with
  | .ok blocks => (canvas.replaceBlocks (blocks.map .checked) fresh, [])
  | .error errors => (canvas, errors)

end Canvas

end BlockPage
