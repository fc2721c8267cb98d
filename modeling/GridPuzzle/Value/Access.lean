import GridPuzzle.Fault
import GridPuzzle.Table
import GridPuzzle.Value.Order

/-!
Taking values apart. Each operation says which kinds of value it takes, and fails with the cause on any
other.
-/

namespace GridPuzzle

/-- The value of an option, or else a fault. -/
def Outcome.ofOption {α : Type} (fault : Fault) : Option α → Outcome α
  | some a => .ok a
  | none => .error fault

namespace Value

/-- The number that a value counts as. -/
def number (v : Value) : Outcome Int :=
  Outcome.ofOption .wrongKind v.number?

/-- The items of a tuple or a set, in order. -/
def items : Value → Outcome (List Value)
  | .tuple xs | .set xs => .ok xs
  | _ => .error .wrongKind

/-- The items of a tuple. -/
def tupleItems : Value → Outcome (List Value)
  | .tuple xs => .ok xs
  | _ => .error .wrongKind

/-- The number of items of a tuple or a set. -/
def size (v : Value) : Outcome Nat :=
  return (← v.items).length

/-- The item of a tuple at a position. -/
def nth (v : Value) (position : Int) : Outcome Value := do
  Outcome.ofOption .outOfRange (Table.item? (← v.tupleItems) position)

/-- The item of a tuple at a position that is itself a value. -/
def itemAt (v position : Value) : Outcome Value := do
  let xs ← v.tupleItems
  Outcome.ofOption .outOfRange (Table.item? xs (← position.number))

/-- The first item, if any, in the order of the container. -/
def head (v : Value) : Outcome Value := do
  Outcome.ofOption .exhausted (← v.items).head?

/-- The two parts of a value that has exactly two. -/
def parts (v : Value) : Outcome (Value × Value) := do
  match ← v.items with
  | [a, b] => return (a, b)
  | _ => throw .wrongParts

/-- The color, row and column of a cell. -/
def cellParts (v : Value) : Outcome (Value × Value × Value) := do
  let (color, place) ← v.parts
  return (color, ← place.parts)

/-- The part of a tuple between two boundaries. -/
def slice (v start stop : Value) : Outcome Value := do
  let xs ← v.tupleItems
  return .tuple (Table.slice xs (← start.number) (← stop.number))

/-- The rows of a table of values. -/
def rows (v : Value) : Outcome (List (List Value)) := do
  (← v.items).mapM items

/-- The grid of the given rows. -/
def ofRows (rows : List (List Value)) : Value :=
  .tuple (rows.map .tuple)

/-- The number of rows of a grid, and of columns of its first row. -/
def dimensions (grid : Value) : Outcome (Nat × Nat) := do
  let height ← grid.size
  let width ← (← grid.nth 0).size
  return (height, width)

/-- Whether a value counts as a number from zero up to, and without, `bound`. -/
def isBelow (v : Value) (bound : Nat) : Outcome Bool :=
  return decide (0 ≤ (← v.number) ∧ (← v.number) < bound)

/-- Whether a row and a column lie in a grid of the given dimensions. The column is looked at only when
the row lies in it. -/
def inside (row column : Value) (height width : Nat) : Outcome Bool := do
  if ← row.isBelow height then column.isBelow width else return false

/-- The cell of a grid in a row and a column. -/
def cell (grid row column : Value) : Outcome Value := do
  (← grid.itemAt row).itemAt column

end Value

end GridPuzzle
