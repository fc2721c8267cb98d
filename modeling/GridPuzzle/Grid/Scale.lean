import GridPuzzle.Patch.Motion

/-!
Enlarging and shrinking. A factor of zero or less leaves nothing.
-/

namespace GridPuzzle

namespace Grid

/-- As many copies as a value counts. -/
def copies {α : Type} (count : Value) (x : α) : Outcome (List α) :=
  return List.replicate (← count.number).toNat x

/-- A row with each of its cells repeated. -/
def stretchRow (factor row : Value) : Outcome Value := do
  let cells ← (← row.items).mapM (copies factor)
  return .tuple cells.flatten

/-- A grid with each of its columns repeated. -/
def stretchColumns (grid factor : Value) : Outcome Value := do
  return .tuple (← (← grid.items).mapM (stretchRow factor))

/-- A grid with each of its rows repeated. -/
def stretchRows (grid factor : Value) : Outcome Value := do
  let rows ← (← grid.items).mapM (copies factor)
  return .tuple rows.flatten

/-- The cells of a square block of one color whose side is the factor, where an object at the origin has
one cell. -/
def block (factor cell : Value) : Outcome (List Value) := do
  let (color, row, column) ← cell.cellParts
  let side := (← factor.number).toNat
  let cells ← (List.range side).mapM fun (i : Nat) => (List.range side).mapM fun (j : Nat) => do
    let row' ← (← row.mul factor).add (.int i)
    return Value.pair color (.pair row' (← (← column.mul factor).add (.int j)))
  return cells.flatten

/-- A grid or an object with each of its cells made a square block. An object keeps its upper left
corner. -/
def enlarge (element factor : Value) : Outcome Value :=
  match element with
  | .tuple rows => do
    let stretched ← rows.mapM fun row => do copies factor (← stretchRow factor row)
    return .tuple stretched.flatten
  | object => do
    if (← object.size) = 0 then return .setOf []
    let corner ← Patch.upperLeft object
    let (top, left) ← corner.parts
    let up ← top.neg
    let atOrigin ← Patch.shift object (.pair up (← left.neg))
    let blocks ← (← atOrigin.items).mapM (block factor)
    Patch.shift (.setOf blocks.flatten) (.pair top left)

/-- Every factor-th row and column of a grid, from the first. -/
def shrink (grid factor : Value) : Outcome Value := do
  let (height, width) ← grid.dimensions
  let rows ← (List.range height).mapM fun (i : Nat) => do
    let cells ← (List.range width).filterMapM fun (j : Nat) => do
      if (← Value.mod (.int j) factor) == .int 0 then return some (← grid.cell (.int i) (.int j))
      else return none
    return Value.tuple cells
  let kept ← (Table.indexed rows).filterMapM fun (i, row) => do
    return if (← Value.mod (.int i) factor) == .int 0 then some row else none
  return .tuple kept

end Grid

end GridPuzzle
