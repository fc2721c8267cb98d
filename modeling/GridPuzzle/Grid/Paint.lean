import GridPuzzle.Patch.Motion
import GridPuzzle.Grid.Color

/-!
Writing cells into grids. What lies outside the grid is left out, later cells replace earlier ones, and
the size of the grid never changes.
-/

namespace GridPuzzle

namespace Grid

/-- Rows with one cell written, if its place is inside and the color there may be written over. -/
def writeCell (height width : Nat) (writable : Value → Bool) (rows : List (List Value))
    (cell : Value × Value × Value) : Outcome (List (List Value)) := do
  let (color, row, column) := cell
  if ← row.inside column height width then
    let i := (← row.number).toNat
    let j := (← column.number).toNat
    match rows[i]? with
    | some cells =>
      match cells[j]? with
      | some old => return if writable old then rows.set i (cells.set j color) else rows
      | none => throw .outOfRange
    | none => throw .outOfRange
  else
    return rows

/-- Rows with several cells written, each read off an item. -/
def writeCells (height width : Nat) (writable : Value → Bool) (rows : List (List Value))
    (read : Value → Outcome (Value × Value × Value)) (targets : List Value) :
    Outcome (List (List Value)) :=
  targets.foldlM (fun rows v => do writeCell height width writable rows (← read v)) rows

/-- The cell of a color at a location. -/
def cellOf (color v : Value) : Outcome (Value × Value × Value) :=
  return (color, ← v.parts)

/-- A grid with one color at the locations of a patch. -/
def fill (grid color patch : Value) : Outcome Value := do
  let (height, width) ← grid.dimensions
  let rows ← grid.rows
  let targets ← Patch.locationItems patch
  return .ofRows (← writeCells height width (fun _ => true) rows (cellOf color) targets)

/-- A grid with an object painted on it. -/
def paint (grid object : Value) : Outcome Value := do
  let (height, width) ← grid.dimensions
  let rows ← grid.rows
  return .ofRows (← writeCells height width (fun _ => true) rows Value.cellParts (← object.items))

/-- A grid with one color at those locations of a patch that show the most frequent color. -/
def fillUnder (grid color patch : Value) : Outcome Value := do
  let (height, width) ← grid.dimensions
  let background ← mostColor grid
  let rows ← grid.rows
  let targets ← Patch.locationItems patch
  return .ofRows (← writeCells height width (· == background) rows (cellOf color) targets)

/-- A grid with an object painted where the grid shows its most frequent color. -/
def paintUnder (grid object : Value) : Outcome Value := do
  let (height, width) ← grid.dimensions
  let background ← mostColor grid
  let rows ← grid.rows
  return .ofRows (← writeCells height width (· == background) rows Value.cellParts (← object.items))

/-- A grid with its most frequent color at the locations of a patch. -/
def erasePatch (grid patch : Value) : Outcome Value := do
  let background ← mostColor grid
  fill grid background (← Patch.locations patch)

/-- A grid with an object moved by a vector. -/
def move (grid object vector : Value) : Outcome Value := do
  let erased ← erasePatch grid object
  paint erased (← Patch.shift object vector)

end Grid

end GridPuzzle
