import GridPuzzle.Region
import GridPuzzle.Grid.Color

/-!
The objects of a grid: its regions of connected cells.
-/

namespace GridPuzzle

namespace Grid

/-- The color of a table at a location. -/
def colorAt (rows : List (List Value)) (l : Location) : Value :=
  match rows[l.1.toNat]? with
  | some row => row[l.2.toNat]?.getD .null
  | none => .null

/-- The neighbors of a location in a table, across corners too if wanted. -/
def neighborsIn (height width : Nat) (acrossCorners : Bool) (l : Location) : List Location :=
  (if acrossCorners then l.around else l.beside).filter (Location.isInside height width)

/-- How objects grow: cell by neighboring cell, through cells of the color of the first one, or else
through all that have not the background's color. -/
def terrain (rows : List (List Value)) (height width : Nat) (oneColor acrossCorners : Bool)
    (background : Value) : Region.Terrain where
  near := neighborsIn height width acrossCorners
  joins start l :=
    if oneColor then colorAt rows start == colorAt rows l else !colorAt rows l == background

/-- The regions of a table. -/
def regions (rows : List (List Value)) (height width : Nat) (oneColor acrossCorners : Bool)
    (background : Value) : List (List Location) :=
  Region.regionsFrom (terrain rows height width oneColor acrossCorners background)
    (height * width + 1) (fun l => !colorAt rows l == background) [] (Location.all height width)

/-- The first `width` cells of each of the first `height` rows of a grid. -/
def table (grid : Value) (height width : Nat) : Outcome (List (List Value)) :=
  (List.range height).mapM fun (i : Nat) => do
    let row ← grid.nth i
    (List.range width).mapM fun (j : Nat) => row.nth j

/-- The objects of a grid: of one color or of any colors, across sides only or across corners too, with or
without those of the most frequent color. -/
def objects (grid oneColor acrossCorners withoutBackground : Value) : Outcome Value := do
  let background ← if withoutBackground.truthy then mostColor grid else pure .null
  let (height, width) ← grid.dimensions
  let rows ← table grid height width
  let found := regions rows height width oneColor.truthy acrossCorners.truthy background
  return .setOf (found.map fun region =>
    .setOf (region.map fun l => .pair (colorAt rows l) l.toValue))

end Grid

end GridPuzzle
