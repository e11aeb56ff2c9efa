/-
**Placed blocks, checked or not.**

A block that is described by a map is checked before it is used. One that is handed in ready may hold
anything, and each of its parts is looked at where it is needed.

* `Placement`: a checked block, or one whose parts were never looked at.
* `Placement.typeId`, `Placement.config`, `Placement.instanceId`: the parts of either, as values.
* `Placement.sameStructure`, `samePlacements`: equality of structure, where the parts allow it;
  `samePlacements_checked`: for checked blocks it is that of layouts.
-/

import BlockPage.Value.Conversion

namespace BlockPage

/-- A block whose parts were never checked. -/
structure LooseBlock where
  typeId : Option Value
  config : Value
  instanceId : Value

/-- A block in its place. -/
inductive Placement where
  | checked (block : Block)
  | loose (block : LooseBlock)

namespace Placement

instance : Coe Block Placement := ⟨checked⟩

/-- The block as a value. -/
def toValue : Placement → Value
  | checked block => .block block
  | loose block => .looseBlock block.typeId block.config block.instanceId

/-- The type, unless it is missing. -/
def typeId : Placement → Except Problem Value
  | checked block => .ok (.text block.typeId)
  | loose block =>
    match block.typeId with
    | some typeId => .ok typeId
    | none => .error (.missingPart "BlockInstance" "type_id")

/-- The configuration. -/
def config : Placement → Value
  | checked block => .ofConfig block.config
  | loose block => block.config

/-- The handle. -/
def instanceId : Placement → Value
  | checked block => .ofOption block.instanceId
  | loose block => block.instanceId

/-- The same block under another handle. -/
def withInstanceId (id : Text) : Placement → Placement
  | checked block => checked { block with instanceId := some id }
  | loose block => loose { block with instanceId := .text id }

/-- The type and the entries of the configuration. -/
def outline (placement : Placement) : Except Problem (Value × Entries) := do
  let typeId ← placement.typeId
  let entries ← placement.config.toEntries
  return (typeId, entries)

/-- The same type and equal configurations. -/
def sameStructure : Placement → Placement → Except Problem Bool
  | checked left, checked right => .ok (left.sameStructure right)
  | left, right => do
    let first ← left.outline
    let second ← right.outline
    return first.1.equal second.1 && (Value.map first.2).equal (.map second.2)

end Placement

/-- Each pair has the same structure. Pairs behind one that differs are not looked at. -/
def samePairs : List (Placement × Placement) → Except Problem Bool
  | [] => .ok true
  | (left, right) :: rest => do
    if ← left.sameStructure right then samePairs rest else return false

/-- The same structures in the same order. -/
def samePlacements (left right : List Placement) : Except Problem Bool :=
  if left.length = right.length then samePairs (left.zip right) else .ok false

/-! ### Checked blocks -/

theorem samePairs_checked (pairs : List (Block × Block)) :
    samePairs (pairs.map fun pair => (.checked pair.1, .checked pair.2))
      = .ok (pairs.all fun pair => pair.1.sameStructure pair.2) := by
  induction pairs with
  | nil => rfl
  | cons first rest ih =>
    cases same : first.1.sameStructure first.2 <;>
      simp [samePairs, Placement.sameStructure, same, ih, bind, Except.bind, pure, Except.pure]

/-- For checked blocks this is the equality of layouts. -/
theorem samePlacements_checked (left right : List Block) :
    samePlacements (left.map .checked) (right.map .checked) = .ok (sameLayout left right) := by
  by_cases sizes : left.length = right.length
  · have pairs : (left.map Placement.checked).zip (right.map Placement.checked)
        = (left.zip right).map fun pair => (.checked pair.1, .checked pair.2) := by
      rw [List.zip_map]; rfl
    simp [samePlacements, sameLayout, sameLayoutBy, sizes, pairs, samePairs_checked]
    rfl
  · simp [samePlacements, sameLayout, sameLayoutBy, sizes]

end BlockPage
