import GridPuzzle.Patch.Extent
import GridPuzzle.Grid.Turn

/-!
Parts of grids, and grids put together.
-/

namespace GridPuzzle

namespace Grid

/-- The part of a grid that starts at a location and has given numbers of rows and columns. -/
def crop (grid start dimensions : Value) : Outcome Value := do
  let top ← start.nth 0
  let bottom ← top.add (← dimensions.nth 0)
  let rows ← (← grid.slice top bottom).items
  let parts ← rows.mapM fun row => do
    let left ← start.nth 1
    row.slice left (← left.add (← dimensions.nth 1))
  return .tuple parts

/-- The part of a grid in the bounding box of a patch. -/
def cropTo (patch grid : Value) : Outcome Value := do
  let corner ← Patch.upperLeft patch
  crop grid corner (← Patch.shape patch)

/-- A grid without its outermost rows and columns. -/
def trim (grid : Value) : Outcome Value := do
  let rows ← (← grid.slice (.int 1) (.int (-1))).items
  return .tuple (← rows.mapM fun row => row.slice (.int 1) (.int (-1)))

/-! ## Halves -/

/-- The rows above the middle; the middle row of an odd number is left out. -/
def topHalf (grid : Value) : Outcome Value := do
  let height ← grid.size
  grid.slice (.int 0) (.int (height / 2 : Nat))

/-- The rows below the middle; the middle row of an odd number is left out. -/
def bottomHalf (grid : Value) : Outcome Value := do
  let height ← grid.size
  grid.slice (.int (height / 2 + height % 2 : Nat)) (.int height)

def leftHalf (grid : Value) : Outcome Value := do
  rotateLeft (← topHalf (← rotateRight grid))

def rightHalf (grid : Value) : Outcome Value := do
  rotateLeft (← bottomHalf (← rotateRight grid))

/-! ## Equal parts -/

/-- The size of each of `count` equal parts of a length, and the distance of their starts: one more than
the size if the parts do not fill the length. -/
def partition (length : Nat) (count : Value) : Outcome (Int × Int) := do
  let size ← (← Value.div (.int length) count).number
  let rest ← (← Value.mod (.int length) count).number
  return (size, if rest = 0 then size else size + 1)

/-- A number of equal parts side by side. -/
def splitColumns (grid count : Value) : Outcome Value := do
  let height ← grid.size
  let (width, stride) ← partition (← (← grid.nth 0).size) count
  let parts ← (Table.upTo 0 (← count.number)).mapM fun i =>
    crop grid (.location 0 (stride * i)) (.location height width)
  return .tuple parts

/-- A number of equal parts one above the other. -/
def splitRows (grid count : Value) : Outcome Value := do
  let (height, stride) ← partition (← grid.size) count
  let width ← (← grid.nth 0).size
  let parts ← (Table.upTo 0 (← count.number)).mapM fun i =>
    crop grid (.location (stride * i) 0) (.location height width)
  return .tuple parts

/-! ## Putting together -/

/-- Two grids side by side, as far down as both reach. -/
def beside (a b : Value) : Outcome Value := do
  let rows := (← a.items).zip (← b.items)
  return .tuple (← rows.mapM fun (left, right) => left.add right)

/-- One grid above another. -/
def above (a b : Value) : Outcome Value :=
  a.add b

end Grid

end GridPuzzle
