import GridPuzzle.Sample.Source
import GridPuzzle.Value.Access

/-!
Sample grids: scattered cells, blobs, and the suite of both with some regular patterns.
-/

namespace GridPuzzle

namespace Sample

/-- The rows of a sample grid. -/
abbrev Rows := List (List Value)

/-- The table that has in each place what a function gives. -/
def tabulate (height width : Int) (f : Nat → Nat → Value) : Rows :=
  (List.range height.toNat).map fun i => (List.range width.toNat).map fun j => f i j

section

variable {σ : Type} (source : Source σ)

/-- A cell that is background with a chance given in thousandths, and else has one of the colors from one
up to, and without, `colors`. -/
def scatteredCell (colors permille : Int) : Draw σ Value := do
  if (← source.thousandths) < permille then return .int 0
  return .int (← source.between 1 colors)

/-- A grid of scattered cells. -/
def scattered (height width colors permille : Int) : Draw σ Rows :=
  (List.range height.toNat).mapM fun _ =>
    (List.range width.toNat).mapM fun _ => scatteredCell source colors permille

/-- Rows with one cell written, which must lie in them. -/
def writeCell (color : Value) (rows : Rows) (place : Nat × Nat) : Outcome Rows :=
  match rows[place.1]? with
  | some row =>
    if place.2 < row.length then .ok (rows.set place.1 (row.set place.2 color)) else .error .outOfRange
  | none => .error .outOfRange

/-- The places of a rectangle, row by row. -/
def rectangle (top left height width : Nat) : List (Nat × Nat) :=
  (List.range height).flatMap fun i => (List.range width).map fun j => (top + i, left + j)

/-- Rows with a rectangle of one color, which must lie in them. -/
def writeRectangle (color : Value) (top left height width : Nat) (rows : Rows) : Outcome Rows :=
  (rectangle top left height width).foldlM (writeCell color) rows

/-- Rows with one more blob: a rectangle of one color of a palette, a third of the grid high and wide at
most. -/
def addBlob (height width : Int) (palette : List Value) (rows : Rows) : Draw σ Rows := do
  let color ← source.item palette
  let blobHeight ← source.upTo 1 (max 1 (height.fdiv 3))
  let blobWidth ← source.upTo 1 (max 1 (width.fdiv 3))
  let top ← source.upTo 0 (max 0 (height - blobHeight))
  let left ← source.upTo 0 (max 0 (width - blobWidth))
  writeRectangle color top.toNat left.toNat blobHeight.toNat blobWidth.toNat rows

/-- Rows with several more blobs. -/
def addBlobs (height width : Int) (palette : List Value) : Nat → Rows → Draw σ Rows
  | 0, rows => return rows
  | count + 1, rows => do addBlobs height width palette count (← addBlob source height width palette rows)

/-- A grid of blobs on the background. -/
def blobs (height width count : Int) (palette : List Value) : Draw σ Rows :=
  addBlobs source height width palette count.toNat (tabulate height width fun _ _ => .int 0)

/-- The colors that are not background. -/
def colors : List Value :=
  (List.range 9).map fun (n : Nat) => .int (n + 1)

/-- Diagonal stripes of four colors. -/
def stripes (side : Int) : Rows :=
  tabulate side side fun i j => .int ((i + j) % 4 : Nat)

/-- A border at the top and at the left, and a square of three by three cells inside. -/
def bordered (side : Int) : Rows :=
  tabulate side side fun i j =>
    if i = 0 ∨ j = 0 then .int 5 else if 2 ≤ i ∧ i < 5 ∧ 2 ≤ j ∧ j < 5 then .int 3 else .int 0

/-- Nine cells of different colors. -/
def nineColors : Rows :=
  tabulate 3 3 fun i j => .int (3 * i + j : Nat)

/-- Two squares that touch at a corner. -/
def twoSquares : Rows :=
  tabulate 6 6 fun i j =>
    if 1 ≤ i ∧ i < 3 ∧ 1 ≤ j ∧ j < 3 then .int 2
    else if 3 ≤ i ∧ i < 5 ∧ 3 ≤ j ∧ j < 5 then .int 4
    else .int 0

/-- Grids of many kinds, those that are drawn first. -/
def suite (side : Int) : Draw σ (List Rows) := do
  let sparse ← scattered source side side 10 550
  let dense ← scattered source side side 10 250
  let few ← blobs source side side 4 colors
  let many ← blobs source side side 8 colors
  let large := max 6 side
  let three ← blobs source large large 3 [.int 1, .int 2, .int 3, .int 5]
  return [sparse, dense, few, many, three, stripes side, bordered side, nineColors, twoSquares]

end

end Sample

end GridPuzzle
