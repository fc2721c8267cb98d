import GridPuzzle.Sample.Grid
import GridPuzzle.Evaluation

/-!
A survey of the primitives on grids and patches, in the order of the language: each is applied to a grid of
blobs, to the block in its upper left corner, to a small patch or to nothing at all, and the result or its
size is noted.
-/

namespace GridPuzzle

namespace Survey

/-- The call of a primitive. -/
def result (p : Primitive) (args : List Value) : Eval Value :=
  apply (.prim p) args

/-- The size of the result of a call. -/
def sizeOfResult (p : Primitive) (args : List Value) : Eval Value := do
  return .int (← (← result p args).size)

/-- The first cell of the grid that a call gives. -/
def firstCell (p : Primitive) (args : List Value) : Eval Value := do
  (← (← result p args).nth 0).nth 0

/-- The length of the first row of the grid that a call gives. -/
def firstRowSize (p : Primitive) (args : List Value) : Eval Value := do
  return .int (← (← (← result p args).nth 0).size)

/-- The set of some locations. -/
def locationSet (places : List (Int × Int)) : Value :=
  .setOf (places.map fun (i, j) => .location i j)

/-- The grid of a survey. -/
def blobGrid (side seed : Int) : Outcome Value :=
  return .ofRows (← (Sample.blobs Source.congruential side side (max 3 (side.fdiv 3)) Sample.colors).run'
    (Source.stateOf seed))

/-- The notes of the survey on a grid. -/
def gridNotes (g : Value) : Eval (List Value) := do
  let no := Value.bool false
  let yes := Value.bool true
  let zero := Value.int 0
  let two := Value.int 2
  let nine := Value.int 9
  let none := Value.setOf []
  let block ← result .gridObject [← result .crop [g, .location 0 0, .location 3 3]]
  let patch := locationSet [(1, 1), (1, 2), (2, 1)]
  let bar := Value.setOf [.pair (.int 1) (.location 0 0), .pair (.int 1) (.location 0 1)]
  let a := locationSet [(0, 0)]
  let right := locationSet [(0, 5)]
  let below := locationSet [(5, 0)]
  let far := locationSet [(5, 5)]
  let objects ← result .objects [g, yes, no, yes]
  let doubled ← result .enlarge [g, two]
  let all ← result .allLocations [g]
  let side := Value.int (← g.size)
  [result .mostColor [g], result .mostColor [block], result .leastColor [g], result .leastColor [block],
    result .height [g], result .height [patch], result .height [none],
    result .width [g], result .width [patch], result .width [none],
    result .shape [g], result .isTall [g],
    result .countColor [g, zero], result .countColor [block, zero],
    sizeOfResult .allLocations [g], sizeOfResult .locationsOf [g, zero],
    result .upperLeft [patch], result .upperRight [patch], result .lowerLeft [patch],
    result .lowerRight [patch], result .crop [g, .location 0 0, .location 2 2],
    sizeOfResult .locations [block], sizeOfResult .locations [patch], sizeOfResult .locations [none],
    sizeOfResult .recolor [nine, patch],
    sizeOfResult .shift [block, .location 1 1], sizeOfResult .shift [patch, .location 1 1],
    sizeOfResult .shift [none, .location 1 1],
    sizeOfResult .toOrigin [block], sizeOfResult .toOrigin [none],
    sizeOfResult .sideNeighbors [.location 1 1], sizeOfResult .cornerNeighbors [.location 1 1],
    sizeOfResult .neighbors [.location 1 1],
    sizeOfResult .objects [g, yes, no, yes], sizeOfResult .objects [g, no, yes, no],
    sizeOfResult .colorClasses [g], sizeOfResult .foregroundClasses [g],
    result .topRow [patch], result .bottomRow [patch], result .leftColumn [patch],
    result .rightColumn [patch], result .isSquare [g], result .isSquare [patch],
    result .isVerticalLine [locationSet [(0, 0), (1, 0)]],
    result .isHorizontalLine [locationSet [(0, 0), (0, 1)]],
    result .sharesRow [a, right], result .sharesColumn [a, below],
    result .distance [a, locationSet [(1, 2)]], result .isAdjacent [a, locationSet [(1, 2)]],
    result .touchesBorder [block, g], result .centroid [patch],
    sizeOfResult .palette [g], sizeOfResult .palette [block], result .colorTotal [g],
    result .colorOf [block], sizeOfResult .objectOn [patch, g], sizeOfResult .gridObject [g],
    firstCell .rotateRight [g], firstCell .rotateHalf [g], firstCell .rotateLeft [g],
    firstCell .flipRows [g], sizeOfResult .flipRows [block], sizeOfResult .flipRows [patch],
    firstCell .flipColumns [g], sizeOfResult .flipColumns [block], sizeOfResult .flipColumns [patch],
    firstCell .transpose [g], sizeOfResult .transpose [block], sizeOfResult .transpose [patch],
    firstCell .antiTranspose [g], sizeOfResult .antiTranspose [block],
    firstCell .fill [g, nine, block], firstCell .paint [g, block],
    firstCell .fillUnder [g, nine, block], firstCell .paintUnder [g, block],
    firstRowSize .stretchColumns [g, two], sizeOfResult .stretchRows [g, two],
    sizeOfResult .enlarge [g, two], sizeOfResult .enlarge [block, two], sizeOfResult .enlarge [none, two],
    sizeOfResult .shrink [doubled, two],
    firstRowSize .beside [g, g], sizeOfResult .above [g, g], result .cropTo [patch, g],
    sizeOfResult .splitColumns [g, two], sizeOfResult .splitRows [g, two],
    firstCell .agreeing [g, g, zero], firstCell .replaceColor [g, zero, nine],
    firstCell .swapColors [g, zero, .int 1], result .center [patch],
    result .direction [a, right], result .direction [right, a], result .direction [right, below],
    result .direction [far, a], result .direction [below, far],
    result .cellAt [g, .location 0 0], result .cellAt [g, .location (-1) 0],
    sizeOfResult .canvas [zero, .pair side side], sizeOfResult .corners [patch],
    sizeOfResult .line [.location 0 0, .location 0 5], sizeOfResult .line [.location 0 0, .location 5 0],
    sizeOfResult .line [.location 0 0, .location 5 5], sizeOfResult .line [.location 5 0, .location 0 5],
    sizeOfResult .line [.location 0 0, .location 1 3],
    firstCell .erasePatch [g, patch], sizeOfResult .trim [g],
    firstCell .move [g, block, .location 1 1],
    sizeOfResult .topHalf [g], sizeOfResult .bottomHalf [g], firstRowSize .leftHalf [g],
    firstRowSize .rightHalf [g],
    sizeOfResult .columnThrough [.location 0 0], sizeOfResult .rowThrough [.location 0 0],
    sizeOfResult .boundingBox [patch], sizeOfResult .boundingBox [none],
    sizeOfResult .boxRest [patch], sizeOfResult .boxRest [none],
    result .gravitate [a, right], result .gravitate [a, below],
    sizeOfResult .innerRing [all], sizeOfResult .outerRing [patch], sizeOfResult .ring [patch],
    sizeOfResult .ring [none], sizeOfResult .ray [.location 0 0, .location 1 1],
    sizeOfResult .occurrences [g, bar], sizeOfResult .uniformLines [g],
    sizeOfResult .dropUniformLines [g],
    result .columnPeriod [block], result .rowPeriod [block],
    sizeOfResult .selectColor [objects, ← result .leastColor [g]],
    sizeOfResult .selectSize [objects, .int 1]].mapM id

/-- The survey of the primitives on grids. -/
def grids (side seed : Int) : Outcome Value := do
  let g ← blobGrid side (42 + seed)
  return .tuple (← (gridNotes g).run' 0)

end Survey

end GridPuzzle
