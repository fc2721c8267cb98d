import GridPuzzle.Value.Access

/-!
Locations: a row and a column, both counted from zero and possibly outside any grid.
-/

namespace GridPuzzle

/-- A row number and a column number. -/
abbrev Location := Int × Int

namespace Location

def toValue (l : Location) : Value :=
  .location l.1 l.2

/-- A location lies in a grid of the given dimensions. -/
def isInside (height width : Nat) (l : Location) : Bool :=
  0 ≤ l.1 && l.1 < height && 0 ≤ l.2 && l.2 < width

/-- The four locations that share a side with one. -/
def beside (l : Location) : List Location :=
  [(l.1 - 1, l.2), (l.1 + 1, l.2), (l.1, l.2 - 1), (l.1, l.2 + 1)]

/-- The four locations that share only a corner with one. -/
def diagonal (l : Location) : List Location :=
  [(l.1 - 1, l.2 - 1), (l.1 - 1, l.2 + 1), (l.1 + 1, l.2 - 1), (l.1 + 1, l.2 + 1)]

/-- The eight locations around one. -/
def around (l : Location) : List Location :=
  beside l ++ diagonal l

/-- The locations of a grid of the given dimensions, row by row. -/
def all (height width : Nat) : List Location :=
  (List.range height).flatMap fun (i : Nat) => (List.range width).map fun (j : Nat) => (↑i, ↑j)

/-! ## Locations as values -/

/-- The locations that share a side with one. The row and the column that do not change stay as they are
given. -/
def sideNeighbors (v : Value) : Outcome Value := do
  let row ← v.nth 0
  let i ← row.number
  let column ← v.nth 1
  let j ← column.number
  return .setOf [.pair (.int (i - 1)) column, .pair (.int (i + 1)) column,
    .pair row (.int (j - 1)), .pair row (.int (j + 1))]

/-- The locations that share only a corner with one. -/
def cornerNeighbors (v : Value) : Outcome Value := do
  let i ← (← v.nth 0).number
  let j ← (← v.nth 1).number
  return .setOf ((diagonal (i, j)).map toValue)

/-- The locations around one. -/
def neighbors (v : Value) : Outcome Value := do
  let sides ← (← sideNeighbors v).items
  return .setOf (sides ++ (← (← cornerNeighbors v).items))

/-- The column through a location, as far down as the largest grid reaches. -/
def columnThrough (v : Value) : Outcome Value := do
  let column ← v.nth 1
  return .setOf ((List.range 30).map fun (i : Nat) => .pair (.int i) column)

/-- The row through a location, as far to the right as the largest grid reaches. -/
def rowThrough (v : Value) : Outcome Value := do
  let row ← v.nth 0
  return .setOf ((List.range 30).map fun (j : Nat) => .pair row (.int j))

end Location

end GridPuzzle
