import GridPuzzle.Patch.Motion

/-!
Turning and flipping grids. The flips also work on patches, which stay in their bounding boxes.
-/

namespace GridPuzzle

namespace Grid

/-- A quarter turn clockwise. -/
def rotateRight (grid : Value) : Outcome Value := do
  let rows ← (← grid.tupleItems).reverse.mapM Value.items
  return .ofRows (Table.columns rows)

/-- A half turn. -/
def rotateHalf (grid : Value) : Outcome Value := do
  let rows ← (← grid.tupleItems).reverse.mapM Value.tupleItems
  return .ofRows (rows.map List.reverse)

/-- A quarter turn anticlockwise. -/
def rotateLeft (grid : Value) : Outcome Value := do
  let rows ← (← grid.tupleItems).reverse.mapM Value.items
  return .ofRows ((Table.columns rows).map List.reverse).reverse

/-- The rows in reverse order. -/
def flipRows : Value → Outcome Value
  | .tuple rows => .ok (.tuple rows.reverse)
  | patch => do
    let top ← (← Patch.upperLeft patch).nth 0
    let sum ← top.add (← (← Patch.lowerRight patch).nth 0)
    Patch.relocate (fun row column => return (← sum.sub row, column)) patch

/-- The columns in reverse order. -/
def flipColumns : Value → Outcome Value
  | .tuple rows => return .ofRows (← rows.mapM fun row => return (← row.tupleItems).reverse)
  | patch => do
    let left ← (← Patch.upperLeft patch).nth 1
    let sum ← left.add (← (← Patch.lowerRight patch).nth 1)
    Patch.relocate (fun row column => return (row, ← sum.sub column)) patch

/-- Rows as columns. -/
def transpose : Value → Outcome Value
  | .tuple rows => return .ofRows (Table.columns (← rows.mapM Value.items))
  | patch => do
    let (top, left) ← (← Patch.upperLeft patch).parts
    let turn (row column : Value) : Outcome (Value × Value) :=
      return (← (← column.sub left).add top, ← (← row.sub top).add left)
    Patch.relocate turn patch

/-- Rows as columns, along the other diagonal. -/
def antiTranspose : Value → Outcome Value
  | .tuple rows => do
    let turned ← rows.reverse.mapM fun row => return (← row.tupleItems).reverse
    return .ofRows (Table.columns turned)
  | patch => do flipColumns (← transpose (← flipColumns patch))

end Grid

end GridPuzzle
