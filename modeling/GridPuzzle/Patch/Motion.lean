import GridPuzzle.Patch.Extent

/-!
Moving patches, and how two patches lie to each other.
-/

namespace GridPuzzle

namespace Patch

/-- A patch with each of its locations taken to another one; the colors of cells stay. -/
def relocate (move : Value → Value → Outcome (Value × Value)) (patch : Value) : Outcome Value := do
  if ← hasCells patch then
    let moved ← (← patch.items).mapM fun v => do
      let (color, row, column) ← v.cellParts
      let (row', column') ← move row column
      return Value.pair color (.pair row' column')
    return .setOf moved
  else
    let moved ← (← patch.items).mapM fun v => do
      let (row, column) ← v.parts
      let (row', column') ← move row column
      return Value.pair row' column'
    return .setOf moved

/-- A patch moved by a vector. -/
def shift (patch vector : Value) : Outcome Value := do
  if (← patch.size) = 0 then return patch
  let (down, right) ← vector.parts
  relocate (fun row column => return (← row.add down, ← column.add right)) patch

/-- A patch moved so that its top row and its left column are zero. -/
def toOrigin (patch : Value) : Outcome Value := do
  if (← patch.size) = 0 then return patch
  let up ← (← topRow patch).neg
  shift patch (.pair up (← (← leftColumn patch).neg))

/-- The object of one color at the locations of a patch. -/
def recolor (color patch : Value) : Outcome Value :=
  return .setOf ((← locationItems patch).map (Value.pair color))

/-! ## Two patches -/

/-- Whether there is a row in which both patches have cells. -/
def sharesRow (a b : Value) : Outcome Bool := do
  let rows ← (← locationItems a).mapM fun v => return (← v.parts).1
  let others ← (← locationItems b).mapM fun v => return (← v.parts).1
  return rows.any (others.contains ·)

/-- Whether there is a column in which both patches have cells. -/
def sharesColumn (a b : Value) : Outcome Bool := do
  let columns ← (← locationItems a).mapM fun v => return (← v.parts).2
  let others ← (← locationItems b).mapM fun v => return (← v.parts).2
  return columns.any (others.contains ·)

/-- The number of steps from one location to another, along rows and columns. -/
def steps (row column : Value) (v : Value) : Outcome Int := do
  let (row', column') ← v.parts
  let down ← (← row.sub row').number
  return down.natAbs + (← (← column.sub column').number).natAbs

/-- The least number of steps from a location of one patch to a location of the other. -/
def distance (a b : Value) : Outcome Int := do
  let targets := locationItems b
  let lengths ← (← locationItems a).mapM fun v => do
    let (row, column) ← v.parts
    (← targets).mapM (steps row column)
  Outcome.ofOption .noChoice lengths.flatten.min?

def isAdjacent (a b : Value) : Outcome Bool :=
  return (← distance a b) == 1

/-- The direction from one patch to another: by rows and columns, one step each at most. -/
def direction (a b : Value) : Outcome Value := do
  let (row, column) ← centerLocation (← locations a)
  let (row', column') ← centerLocation (← locations b)
  let right : Int := if column < column' then 1 else -1
  let down : Int := if row < row' then 1 else -1
  if row = row' then return .location 0 right
  if column = column' then return .location down 0
  return .location down right

/-- The number of steps along a vector after which a patch is next to another one, or `limit` if that many
do not suffice. -/
def stepsUntilAdjacent (destination vector : Value) : Nat → Value → Outcome Nat
  | 0, source => do
    let _ ← isAdjacent source destination
    return 0
  | limit + 1, source => do
    if ← isAdjacent source destination then return 0
    return (← stepsUntilAdjacent destination vector limit (← shift source vector)) + 1

/-- The vector that takes one patch next to another, in steps along their common columns if they have any
and else along the rows. After 42 steps the search ends. -/
def gravitate (source destination : Value) : Outcome Value := do
  let (row, column) ← centerLocation source
  let (row', column') ← centerLocation destination
  let (down, right) : Int × Int :=
    if ← sharesColumn source destination then (if row < row' then 1 else -1, 0)
    else (0, if column < column' then 1 else -1)
  let count ← stepsUntilAdjacent destination (.location down right) 42 source
  return .location (down * count) (right * count)

end Patch

end GridPuzzle
