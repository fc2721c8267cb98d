import GridPuzzle.Grid.Turn

/-!
Rows and columns of a single color.
-/

namespace GridPuzzle

namespace Grid

/-- The places of the items of a container that hold one value over and over. -/
def uniformPlaces (v : Value) : Outcome (List Nat) := do
  (Table.indexed (← v.items)).filterMapM fun (i, xs) => do
    return if (Value.canonical (← xs.items)).length = 1 then some i else none

/-- The object of the cells of a grid at some locations. -/
def cellsAt (grid : Value) (places : List (Nat × Nat)) : Outcome Value := do
  let cells ← places.mapM fun (i, j) => do
    return Value.pair (← grid.cell (.int i) (.int j)) (.location i j)
  return .setOf cells

/-- The rows and columns of a single color, each as an object. -/
def uniformLines (grid : Value) : Outcome Value := do
  let (height, width) ← grid.dimensions
  let rows ← uniformPlaces grid
  let columns ← uniformPlaces (← transpose grid)
  let horizontal ← rows.mapM fun i => cellsAt grid ((List.range width).map fun j => (i, j))
  let vertical ← columns.mapM fun j => cellsAt grid ((List.range height).map fun i => (i, j))
  return .setOf (horizontal ++ vertical)

/-- The items of a list whose places are not among some others. -/
def dropPlaces {α : Type} (places : List Nat) (xs : List α) : List α :=
  ((Table.indexed xs).filter fun (i, _) => !places.contains i).map (·.2)

/-- A grid without its rows and columns of a single color. -/
def dropUniformLines (grid : Value) : Outcome Value := do
  let rows ← uniformPlaces grid
  let columns ← uniformPlaces (← transpose grid)
  let kept ← (dropPlaces rows (← grid.items)).mapM Value.items
  return .ofRows (kept.map (dropPlaces columns))

end Grid

end GridPuzzle
