/-
**Blocks from loose values.**

* `readBlock`: the fields of a block, strictly.
* `coerceBlock`: a block as it is, or a map that describes one, its type under `type_id` or under `id`.
* `snapshot`: a sequence of such values, as the operations on pages take it.
-/

import BlockPage.Block.Placement
import BlockPage.Intake.Field

namespace BlockPage.Intake

/-- A block from its fields. -/
def readBlock (entries : Entries) : Checked Block :=
  Block.mk <$> required entries "type_id" (readNonEmpty .strict)
    <*> optional entries "config" ∅ (readConfig .strict)
    <*> optional entries "instance_id" none (readOption (readText .strict))

/-- The fields of a block, the missing ones absent. -/
def blockEntries (typeId config instanceId : Value) : Entries :=
  Entries.ofFields [("type_id", typeId), ("config", config), ("instance_id", instanceId)]

/-- The entries with the type under its own name. -/
def nameType (entries : Entries) : Entries :=
  match entries.get? "type_id", entries.get? "id" with
  | none, some typeId => (entries.erase "id").insert (.text "type_id") typeId
  | _, _ => entries

/-- A block that is given as such or described by a map. Only the described one is checked. -/
def coerceBlock : Value → Except Problem Placement
  | .block placed => .ok (.checked placed)
  | .looseBlock typeId config instanceId => .ok (.loose ⟨typeId, config, instanceId⟩)
  | .map entries => do
    let named := nameType entries
    let field (name : Text) := (named.get? name).getD .absent
    let given := field "config"
    let config ← (if given.isTruthy then given else .map []).toEntries
    let block ←
      (readBlock (blockEntries (field "type_id") (.map config) (field "instance_id"))).toExcept
    return .checked block
  | other =>
    .error (.typeMismatch
      (Text.ofString "Expected BlockInstance or mapping, got " ++ other.kindName))

/-- The blocks of a sequence. -/
def coerceBlocks (value : Value) : Except Problem (List Placement) := do
  let items ← value.items
  items.mapM coerceBlock

/-- The refusal of a sequence of blocks: an ill-formed value anywhere in it is the caller's fault, a
configuration that is no sequence of pairs is reported as it is. -/
def refuseBlocks (problem : Problem) : Problem :=
  match problem.kind with
  | .typeMismatch | .invalid => problem.within .precondition "Invalid block instance: "
  | _ => problem

/-- The blocks of a sequence, as the operations on pages take it. -/
def snapshot (value : Value) : Except Problem (List Placement) :=
  let refused : Except Problem (List Placement) :=
    .error { kind := .precondition,
             message := Text.ofString "Expected a sequence of block instances, got "
               ++ value.kindName }
  match value with
  | .scalar (.text _) => refused
  | .bytes _ => refused
  | .map _ => refused
  | value => (coerceBlocks value).mapError refuseBlocks

end BlockPage.Intake
