import GridPuzzle.Value.Choice

/-!
Patches and their extent. A patch is a set of locations, or an object: a set of cells, each a color with a
location. Which of the two it is shows in its first item. A piece is a grid or a patch.
-/

namespace GridPuzzle

namespace Patch

/-- Whether the first item of a patch that has one is a cell. -/
def hasCells (patch : Value) : Outcome Bool :=
  return (← (← patch.head).nth 1).isTuple

/-- The locations of a patch. -/
def locations (patch : Value) : Outcome Value := do
  if (← patch.size) = 0 then return .setOf []
  if ← hasCells patch then
    return .setOf (← (← patch.items).mapM fun v => return (← v.parts).2)
  else
    return patch

/-- The locations of a patch, as a list. -/
def locationItems (patch : Value) : Outcome (List Value) := do
  (← locations patch).items

/-! ## Outermost rows and columns -/

def topRow (patch : Value) : Outcome Value := do
  Value.bestKey Value.least (fun v => return (← v.parts).1) (← locationItems patch)

def bottomRow (patch : Value) : Outcome Value := do
  Value.bestKey Value.greatest (fun v => return (← v.parts).1) (← locationItems patch)

def leftColumn (patch : Value) : Outcome Value := do
  Value.bestKey Value.least (fun v => return (← v.parts).2) (← locationItems patch)

def rightColumn (patch : Value) : Outcome Value := do
  Value.bestKey Value.greatest (fun v => return (← v.parts).2) (← locationItems patch)

/-! ## Corners -/

/-- The rows of a patch in one list, and its columns in another. -/
def coordinates (patch : Value) : Outcome (List (List Value)) := do
  return Table.columns (← (← locationItems patch).mapM Value.items)

/-- The best value of a list that must not be empty. -/
def bestOf (rule : Value.Rule) (xs : List Value) : Outcome Value :=
  Value.bestKey rule Except.ok xs

/-- The corner that is best by one rule among the rows and by another among the columns. -/
def cornerBy (rowRule columnRule : Value.Rule) (patch : Value) : Outcome Value := do
  let corner ← (Table.indexed (← coordinates patch)).mapM fun
    | (0, xs) => bestOf rowRule xs
    | (1, xs) => bestOf columnRule xs
    | _ => throw .missingKey
  return .tuple corner

def upperLeft (patch : Value) : Outcome Value := do
  return .tuple (← (← coordinates patch).mapM (bestOf Value.least))

def upperRight : Value → Outcome Value :=
  cornerBy Value.least Value.greatest

def lowerLeft : Value → Outcome Value :=
  cornerBy Value.greatest Value.least

def lowerRight (patch : Value) : Outcome Value := do
  return .tuple (← (← coordinates patch).mapM (bestOf Value.greatest))

def corners (patch : Value) : Outcome Value :=
  return .setOf [← upperLeft patch, ← upperRight patch, ← lowerLeft patch, ← lowerRight patch]

/-! ## Size and centre -/

/-- The number of rows of a piece. -/
def height (piece : Value) : Outcome Int := do
  let count ← piece.size
  if count = 0 then return 0
  if piece.isTuple then return count
  let bottom ← bottomRow piece
  return (← (← bottom.sub (← topRow piece)).number) + 1

/-- The number of columns of a piece. -/
def width (piece : Value) : Outcome Int := do
  if (← piece.size) = 0 then return 0
  if piece.isTuple then return ← (← piece.nth 0).size
  let right ← rightColumn piece
  return (← (← right.sub (← leftColumn piece)).number) + 1

def shape (piece : Value) : Outcome Value :=
  return .location (← height piece) (← width piece)

/-- Whether a piece has more rows than columns. -/
def isTall (piece : Value) : Outcome Bool :=
  return decide ((← width piece) < (← height piece))

/-- The middle of the bounding box, the lower and the right one of two. -/
def centerLocation (patch : Value) : Outcome (Int × Int) := do
  let row := (← (← topRow patch).number) + (← height patch).fdiv 2
  let column := (← (← leftColumn patch).number) + (← width patch).fdiv 2
  return (row, column)

def center (patch : Value) : Outcome Value := do
  let (row, column) ← centerLocation patch
  return .location row column

/-- The mean of a patch's rows and of its columns, rounded down. -/
def centroid (patch : Value) : Outcome Value := do
  let means ← (← coordinates patch).mapM fun xs => do
    let total := (← xs.mapM Value.number).foldl (· + ·) 0
    return Value.int (total.fdiv (← patch.size))
  return .tuple means

/-! ## Shapes -/

/-- Whether a grid has as many rows as columns, or a patch fills a square. -/
def isSquare (piece : Value) : Outcome Bool := do
  if piece.isTuple then
    let count ← piece.size
    return count == (← (← piece.nth 0).size)
  else
    let rows ← height piece
    let columns ← width piece
    return rows * columns == (← piece.size) && rows == columns

def isVerticalLine (patch : Value) : Outcome Bool := do
  if (← height patch) = (← patch.size) then return (← width patch) == 1 else return false

def isHorizontalLine (patch : Value) : Outcome Bool := do
  if (← width patch) = (← patch.size) then return (← height patch) == 1 else return false

/-- Whether a patch has a cell in an outermost row or column of a grid. -/
def touchesBorder (patch grid : Value) : Outcome Bool := do
  if (← topRow patch) == .int 0 then return true
  if (← leftColumn patch) == .int 0 then return true
  if (← bottomRow patch) == .int ((← grid.size) - 1) then return true
  return (← rightColumn patch) == .int ((← (← grid.nth 0).size) - 1)

end Patch

end GridPuzzle
