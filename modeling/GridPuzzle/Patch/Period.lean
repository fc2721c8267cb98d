import GridPuzzle.Location
import GridPuzzle.Patch.Motion

/-!
Periods of objects: the least shift that takes an object into itself, as far as it stays in its box.
-/

namespace GridPuzzle

namespace Patch

/-- Whether an object at the origin, moved up or left by a vector, lies in itself but for the cells that
`keep` tells to have left the box. -/
def repeatsAfter (object : Value) (vector : Location) (keep : Value → Value → Outcome Bool) :
    Outcome Bool := do
  let moved ← Patch.shift object (.location vector.1 vector.2)
  let kept ← (← moved.items).filterMapM fun v => do
    let (color, row, column) ← v.cellParts
    return if ← keep row column then some (Value.pair color (.pair row column)) else none
  let cells ← object.items
  return kept.all (cells.contains ·)

/-- The least number from one up to, and without, `bound` that passes a test, or else `bound`. -/
def leastBelow (bound : Int) (test : Int → Outcome Bool) : Outcome Value := do
  return .int ((← (Table.upTo 1 bound).findM? test).getD bound)

/-- The least number of columns after which an object repeats. -/
def columnPeriod (object : Value) : Outcome Value := do
  let cells ← toOrigin object
  leastBelow (← width cells) fun period =>
    repeatsAfter cells (0, -period) fun _ column => return decide (0 ≤ (← column.number))

/-- The least number of rows after which an object repeats. -/
def rowPeriod (object : Value) : Outcome Value := do
  let cells ← toOrigin object
  leastBelow (← height cells) fun period =>
    repeatsAfter cells (-period, 0) fun row _ => return decide (0 ≤ (← row.number))

end Patch

end GridPuzzle
