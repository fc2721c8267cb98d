import GridPuzzle.Patch.Motion

/-!
Grids and the objects on them: single cells, the whole grid as an object, and where an object occurs.
-/

namespace GridPuzzle

namespace Grid

/-- The grid of one color with given numbers of rows and columns. -/
def canvas (color dimensions : Value) : Outcome Value := do
  let height ← (← dimensions.nth 0).number
  let rows ← (List.range height.toNat).mapM fun _ => do
    let width ← (← dimensions.nth 1).number
    return List.replicate width.toNat color
  return .ofRows rows

/-- The color at a location, or nothing if the location is outside. -/
def cellAt (grid place : Value) : Outcome Value := do
  let (row, column) ← place.parts
  let (height, width) ← grid.dimensions
  if ← row.inside column height width then grid.cell (← place.nth 0) (← place.nth 1)
  else return .null

/-- The locations of all cells. -/
def allLocations (grid : Value) : Outcome Value := do
  let rows ← (List.range (← grid.size)).mapM fun (i : Nat) => do
    let width ← (← grid.nth 0).size
    return (List.range width).map fun (j : Nat) => Value.location i j
  return .setOf rows.flatten

/-- A grid as the object of all its cells. -/
def gridObject (grid : Value) : Outcome Value :=
  return .setOf ((Table.cells (← grid.rows)).map fun (i, j, v) => .pair v (.location i j))

/-- The object of the cells of a grid at the locations of a patch, those outside left out. -/
def objectOn (patch grid : Value) : Outcome Value := do
  let (height, width) ← grid.dimensions
  let cells ← (← Patch.locationItems patch).filterMapM fun v => do
    let (row, column) ← v.parts
    if ← row.inside column height width then
      return some (Value.pair (← grid.cell row column) (.pair row column))
    else
      return none
  return .setOf cells

/-- Whether a grid has a cell's color at the cell's location. -/
def shows (grid : Value) (height width : Nat) (cell : Value) : Outcome Bool := do
  let (color, row, column) ← cell.cellParts
  if ← row.inside column height width then return (← grid.cell row column) == color
  else return false

/-- The locations of a grid to which an object's upper left corner can be moved so that the grid shows
the object there. -/
def occurrences (grid object : Value) : Outcome Value := do
  let cells ← Patch.toOrigin object
  let (height, width) ← grid.dimensions
  let lastRow := height - (← Patch.height object) + 1
  let lastColumn := width - (← Patch.width object) + 1
  let places := (Table.upTo 0 lastRow).flatMap fun i => (Table.upTo 0 lastColumn).map (Value.location i)
  let found ← places.filterM fun place => do
    (← (← Patch.shift cells place).items).allM (shows grid height width)
  return .setOf found

/-- The cells in which two grids agree, and a fallback elsewhere. -/
def agreeing (a b fallback : Value) : Outcome Value := do
  let (height, width) ← a.dimensions
  let rows ← (List.range height).mapM fun (i : Nat) => (List.range width).mapM fun (j : Nat) => do
    let v ← a.cell (.int i) (.int j)
    return if v == (← b.cell (.int i) (.int j)) then v else fallback
  return .ofRows rows

end Grid

end GridPuzzle
