import GridPuzzle.Container

/-!
The colors of grids and objects. An element is a grid or an object.
-/

namespace GridPuzzle

namespace Grid

/-- The colors of the cells of an element, one for each cell. -/
def colors (element : Value) : Outcome (List Value) := do
  if element.isTuple then return (← element.rows).flatten
  else (← element.items).mapM fun v => return (← v.parts).1

def mostColor (element : Value) : Outcome Value := do
  Container.mostFrequent (← colors element)

def leastColor (element : Value) : Outcome Value := do
  Container.leastFrequent (← colors element)

def palette (element : Value) : Outcome Value :=
  return .setOf (← colors element)

/-- The number of colors. -/
def colorTotal (element : Value) : Outcome Value :=
  return .int (← (← palette element).size)

/-- The number of items that equal a value; only a tuple can count them. -/
def countIn (color : Value) : Value → Outcome Nat
  | .tuple xs => .ok (xs.count color)
  | _ => .error .unsupported

/-- The number of cells of a color. -/
def countColor (element color : Value) : Outcome Value := do
  if element.isTuple then
    let total : Nat := (← (← element.items).mapM (countIn color)).foldl (· + ·) 0
    return .int total
  else
    return .int ((← colors element).count color)

/-- The color of an object: that of its first cell. -/
def colorOf (object : Value) : Outcome Value := do
  (← object.head).nth 0

/-- The objects of a color. -/
def selectColor (objects color : Value) : Outcome Value := do
  let kept ← (← objects.items).filterM fun object =>
    match colorOf object with
    | .error .exhausted => .error .exhaustedInside
    | result => return (← result) == color
  return .setOf kept

/-- The items of a size. -/
def selectSize (container size : Value) : Outcome Value := do
  let kept ← (← container.items).filterM fun v => return Value.int (← v.size) == size
  return .setOf kept

/-! ## Cells of a color -/

/-- The locations of the cells of a color. -/
def locationsOf (grid color : Value) : Outcome Value := do
  let cells := (Table.cells (← grid.rows)).filter fun (_, _, v) => v == color
  return .setOf (cells.map fun (i, j, _) => .location i j)

/-- The object of the cells of a table that have a color. -/
def colorClass (rows : List (List Value)) (color : Value) : Value :=
  let cells := (Table.cells rows).filter fun (_, _, v) => v == color
  .setOf (cells.map fun (i, j, v) => .pair v (.location i j))

/-- One object for each of some colors, of all the cells that have it. -/
def classes (grid : Value) (colors : List Value) : Outcome Value :=
  match colors with
  | [] => .ok (.setOf [])
  | _ => return .setOf (colors.map (colorClass (← grid.rows)))

/-- One object for each color. -/
def colorClasses (grid : Value) : Outcome Value := do
  classes grid (← (← palette grid).items)

/-- One object for each color but the most frequent one. -/
def foregroundClasses (grid : Value) : Outcome Value := do
  let colors ← (← palette grid).items
  let background ← mostColor grid
  classes grid (colors.filter (!background == ·))

/-! ## Changing colors -/

/-- A grid with each cell changed by a function of its color. -/
def mapCells (f : Value → Value) (grid : Value) : Outcome Value :=
  return .ofRows ((← grid.rows).map (·.map f))

/-- A grid with one color in place of another. -/
def replaceColor (grid replaced replacement : Value) : Outcome Value :=
  mapCells (fun v => if v == replaced then replacement else v) grid

/-- A grid with two colors exchanged. -/
def swapColors (grid a b : Value) : Outcome Value :=
  mapCells (fun v => if v == b then a else if v == a then b else v) grid

end Grid

end GridPuzzle
