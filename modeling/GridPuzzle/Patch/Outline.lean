import GridPuzzle.Patch.Extent

/-!
Boxes around patches, and lines between locations.
-/

namespace GridPuzzle

namespace Patch

/-! ## Boxes -/

/-- The locations of the bounding box of a patch. -/
def boundingBox (patch : Value) : Outcome Value := do
  if (← patch.size) = 0 then return .setOf []
  let (top, left) ← (← upperLeft (← locations patch)).parts
  let (bottom, right) ← (← lowerRight patch).parts
  let rows ← Value.upTo top (← bottom.add (.int 1))
  let box ← rows.mapM fun row => do
    return (← Value.upTo left (← right.add (.int 1))).map (Value.location row)
  return .setOf box.flatten

/-- The locations of the bounding box that are not in the patch. -/
def boxRest (patch : Value) : Outcome Value := do
  if (← patch.size) = 0 then return .setOf []
  (← boundingBox patch).sub (← locations patch)

/-- The border of the box between two rows and two columns. -/
def border (top left bottom right : Value) : Outcome Value := do
  let rows ← Value.upTo top (← bottom.add (.int 1))
  let columns ← Value.upTo left (← right.add (.int 1))
  return .setOf (rows.map (fun i => .pair (.int i) left) ++ rows.map (fun i => .pair (.int i) right) ++
    columns.map (fun j => .pair top (.int j)) ++ columns.map (fun j => .pair bottom (.int j)))

/-- The border of the box that has two given corners, in any order. -/
def borderBetween (row column row' column' : Value) : Outcome Value := do
  let top ← Value.better Value.least row row'
  let left ← Value.better Value.least column column'
  let bottom ← Value.better Value.greatest row row'
  let right ← Value.better Value.greatest column column'
  border top left bottom right

/-- The border of the bounding box, after each side has been moved outwards. -/
def ringAt (outwards : Int) (patch : Value) : Outcome Value := do
  let top ← (← topRow patch).sub (.int outwards)
  let left ← (← leftColumn patch).sub (.int outwards)
  let bottom ← (← bottomRow patch).add (.int outwards)
  let right ← (← rightColumn patch).add (.int outwards)
  borderBetween top left bottom right

/-- The ring just inside the bounding box. -/
def innerRing : Value → Outcome Value :=
  ringAt (-1)

/-- The ring just outside the bounding box. -/
def outerRing : Value → Outcome Value :=
  ringAt 1

/-- The border of the bounding box. -/
def ring (patch : Value) : Outcome Value := do
  if (← patch.size) = 0 then return patch
  let (top, left) ← (← upperLeft patch).parts
  let (bottom, right) ← (← lowerRight patch).parts
  borderBetween top left bottom right

/-! ## Lines -/

/-- The locations between two locations of one row, of one column or of one diagonal; there are none
between others. -/
def line (a b : Value) : Outcome Value := do
  let (row, column) ← a.parts
  let (row', column') ← b.parts
  let top ← Value.better Value.least row row'
  let bottom ← (← Value.better Value.greatest row row').add (.int 1)
  let left ← Value.better Value.least column column'
  let right ← (← Value.better Value.greatest column column').add (.int 1)
  if row == row' then
    return .setOf ((← Value.upTo left right).map fun j => .pair row (.int j))
  if column == column' then
    return .setOf ((← Value.upTo top bottom).map fun i => .pair (.int i) column)
  let down ← row'.sub row
  if down == (← column'.sub column) then
    return .setOf (List.zipWith Value.location (← Value.upTo top bottom) (← Value.upTo left right))
  if down == (← column.sub column') then
    return .setOf (List.zipWith Value.location (← Value.upTo top bottom)
      (← Value.upTo left right).reverse)
  return .setOf []

/-- The line from a location in a direction, far enough to leave any grid. -/
def ray (start direction : Value) : Outcome Value := do
  let row ← start.nth 0
  let row' ← row.add (← Value.mul (.int 42) (← direction.nth 0))
  let column ← start.nth 1
  let column' ← column.add (← Value.mul (.int 42) (← direction.nth 1))
  line start (.pair row' column')

end Patch

end GridPuzzle
