/-!
The primitive operations of the language, as a plain enumeration: what each is called in programs and
how many arguments it takes. What they compute is said in `Primitive/Meaning`.
-/

namespace GridPuzzle

/-- A primitive operation. -/
inductive Primitive where
  | identity | add | subtract | multiply | divide | negate | isEven | double | halve | not | equal
  | member | union | intersect | without | distinct | sortBy | replicate | greater | size | flatten
  | maximum | minimum | greatestKey | leastKey | greatestBy | leastBy | mostCommon | leastCommon
  | singleton | both | either | increment | decrement | awayFromZero | sign | isPositive | downBy
  | rightBy | filter | filterFlatten | findFirst | toTuple | first | last | insert | erase | other
  | range | makePair | product | zip | choose | compose | compose3 | hasResult | bindLast | bindFirst
  | iterate | fork | map | mapFunctions | mapFlatten | zipMap | zipMapFlatten | productMap
  | mostColor | leastColor | height | width | shape | isTall | countColor | selectColor
  | selectSize | allLocations | locationsOf | upperLeft | upperRight | lowerLeft | lowerRight
  | crop | locations | recolor | shift | toOrigin | sideNeighbors | cornerNeighbors | neighbors
  | objects | colorClasses | foregroundClasses | topRow | bottomRow | leftColumn | rightColumn
  | isSquare | isVerticalLine | isHorizontalLine | sharesRow | sharesColumn | distance | isAdjacent
  | touchesBorder | centroid | palette | colorTotal | colorOf | objectOn | gridObject | rotateRight
  | rotateHalf | rotateLeft | flipRows | flipColumns | transpose | antiTranspose | fill | paint
  | fillUnder | paintUnder | stretchColumns | stretchRows | enlarge | shrink | beside | above
  | cropTo | splitColumns | splitRows | agreeing | replaceColor | swapColors | center | direction
  | cellAt | canvas | corners | line | erasePatch | trim | move | topHalf | bottomHalf | leftHalf
  | rightHalf | columnThrough | rowThrough | boundingBox | boxRest | gravitate | innerRing
  | outerRing | ring | ray | occurrences | uniformLines | dropUniformLines | columnPeriod
  | rowPeriod
  deriving DecidableEq, Repr

namespace Primitive

/-- The word for a primitive in programs. -/
def name : Primitive → String
  | .identity => "identity"
  | .add => "add"
  | .subtract => "subtract"
  | .multiply => "multiply"
  | .divide => "divide"
  | .negate => "invert"
  | .isEven => "even"
  | .double => "double"
  | .halve => "halve"
  | .not => "flip"
  | .equal => "equality"
  | .member => "contained"
  | .union => "combine"
  | .intersect => "intersection"
  | .without => "difference"
  | .distinct => "dedupe"
  | .sortBy => "order"
  | .replicate => "repeat"
  | .greater => "greater"
  | .size => "size"
  | .flatten => "merge"
  | .maximum => "maximum"
  | .minimum => "minimum"
  | .greatestKey => "valmax"
  | .leastKey => "valmin"
  | .greatestBy => "argmax"
  | .leastBy => "argmin"
  | .mostCommon => "mostcommon"
  | .leastCommon => "leastcommon"
  | .singleton => "initset"
  | .both => "both"
  | .either => "either"
  | .increment => "increment"
  | .decrement => "decrement"
  | .awayFromZero => "crement"
  | .sign => "sign"
  | .isPositive => "positive"
  | .downBy => "toivec"
  | .rightBy => "tojvec"
  | .filter => "sfilter"
  | .filterFlatten => "mfilter"
  | .findFirst => "extract"
  | .toTuple => "totuple"
  | .first => "first"
  | .last => "last"
  | .insert => "insert"
  | .erase => "remove"
  | .other => "other"
  | .range => "interval"
  | .makePair => "astuple"
  | .product => "product"
  | .zip => "pair"
  | .choose => "branch"
  | .compose => "compose"
  | .compose3 => "chain"
  | .hasResult => "matcher"
  | .bindLast => "rbind"
  | .bindFirst => "lbind"
  | .iterate => "power"
  | .fork => "fork"
  | .map => "apply"
  | .mapFunctions => "rapply"
  | .mapFlatten => "mapply"
  | .zipMap => "papply"
  | .zipMapFlatten => "mpapply"
  | .productMap => "prapply"
  | .mostColor => "mostcolor"
  | .leastColor => "leastcolor"
  | .height => "height"
  | .width => "width"
  | .shape => "shape"
  | .isTall => "portrait"
  | .countColor => "colorcount"
  | .selectColor => "colorfilter"
  | .selectSize => "sizefilter"
  | .allLocations => "asindices"
  | .locationsOf => "ofcolor"
  | .upperLeft => "ulcorner"
  | .upperRight => "urcorner"
  | .lowerLeft => "llcorner"
  | .lowerRight => "lrcorner"
  | .crop => "crop"
  | .locations => "toindices"
  | .recolor => "recolor"
  | .shift => "shift"
  | .toOrigin => "normalize"
  | .sideNeighbors => "dneighbors"
  | .cornerNeighbors => "ineighbors"
  | .neighbors => "neighbors"
  | .objects => "objects"
  | .colorClasses => "partition"
  | .foregroundClasses => "fgpartition"
  | .topRow => "uppermost"
  | .bottomRow => "lowermost"
  | .leftColumn => "leftmost"
  | .rightColumn => "rightmost"
  | .isSquare => "square"
  | .isVerticalLine => "vline"
  | .isHorizontalLine => "hline"
  | .sharesRow => "hmatching"
  | .sharesColumn => "vmatching"
  | .distance => "manhattan"
  | .isAdjacent => "adjacent"
  | .touchesBorder => "bordering"
  | .centroid => "centerofmass"
  | .palette => "palette"
  | .colorTotal => "numcolors"
  | .colorOf => "color"
  | .objectOn => "toobject"
  | .gridObject => "asobject"
  | .rotateRight => "rot90"
  | .rotateHalf => "rot180"
  | .rotateLeft => "rot270"
  | .flipRows => "hmirror"
  | .flipColumns => "vmirror"
  | .transpose => "dmirror"
  | .antiTranspose => "cmirror"
  | .fill => "fill"
  | .paint => "paint"
  | .fillUnder => "underfill"
  | .paintUnder => "underpaint"
  | .stretchColumns => "hupscale"
  | .stretchRows => "vupscale"
  | .enlarge => "upscale"
  | .shrink => "downscale"
  | .beside => "hconcat"
  | .above => "vconcat"
  | .cropTo => "subgrid"
  | .splitColumns => "hsplit"
  | .splitRows => "vsplit"
  | .agreeing => "cellwise"
  | .replaceColor => "replace"
  | .swapColors => "switch"
  | .center => "center"
  | .direction => "position"
  | .cellAt => "index"
  | .canvas => "canvas"
  | .corners => "corners"
  | .line => "connect"
  | .erasePatch => "cover"
  | .trim => "trim"
  | .move => "move"
  | .topHalf => "tophalf"
  | .bottomHalf => "bottomhalf"
  | .leftHalf => "lefthalf"
  | .rightHalf => "righthalf"
  | .columnThrough => "vfrontier"
  | .rowThrough => "hfrontier"
  | .boundingBox => "backdrop"
  | .boxRest => "delta"
  | .gravitate => "gravitate"
  | .innerRing => "inbox"
  | .outerRing => "outbox"
  | .ring => "box"
  | .ray => "shoot"
  | .occurrences => "occurrences"
  | .uniformLines => "frontiers"
  | .dropUniformLines => "compress"
  | .columnPeriod => "hperiod"
  | .rowPeriod => "vperiod"

/-- The number of arguments that a primitive takes. -/
def arity : Primitive → Nat
  | .add | .subtract | .multiply | .divide | .equal | .member | .union | .intersect | .without
  | .sortBy | .replicate | .greater | .greatestKey | .leastKey | .greatestBy | .leastBy | .both
  | .either | .filter | .filterFlatten | .findFirst | .insert | .erase | .other | .makePair
  | .product | .zip | .compose | .hasResult | .bindLast | .bindFirst | .iterate | .map
  | .mapFunctions | .mapFlatten | .countColor | .selectColor | .selectSize | .locationsOf
  | .recolor | .shift | .sharesRow | .sharesColumn | .distance | .isAdjacent | .touchesBorder
  | .objectOn | .paint | .paintUnder | .stretchColumns | .stretchRows | .enlarge | .shrink
  | .beside | .above | .cropTo | .splitColumns | .splitRows | .direction | .cellAt | .canvas
  | .line | .erasePatch | .gravitate | .ray | .occurrences => 2
  | .range | .choose | .compose3 | .fork | .zipMap | .zipMapFlatten | .productMap | .crop | .fill
  | .fillUnder | .agreeing | .replaceColor | .swapColors | .move => 3
  | .objects => 4
  | _ => 1

/-- All primitives, in the order of the enumeration. -/
def all : List Primitive :=
  [.identity, .add, .subtract, .multiply, .divide, .negate, .isEven, .double, .halve, .not,
    .equal, .member, .union, .intersect, .without, .distinct, .sortBy, .replicate, .greater, .size,
    .flatten, .maximum, .minimum, .greatestKey, .leastKey, .greatestBy, .leastBy, .mostCommon,
    .leastCommon, .singleton, .both, .either, .increment, .decrement, .awayFromZero, .sign,
    .isPositive, .downBy, .rightBy, .filter, .filterFlatten, .findFirst, .toTuple, .first, .last,
    .insert, .erase, .other, .range, .makePair, .product, .zip, .choose, .compose, .compose3,
    .hasResult, .bindLast, .bindFirst, .iterate, .fork, .map, .mapFunctions, .mapFlatten, .zipMap,
    .zipMapFlatten, .productMap, .mostColor, .leastColor, .height, .width, .shape, .isTall,
    .countColor, .selectColor, .selectSize, .allLocations, .locationsOf, .upperLeft, .upperRight,
    .lowerLeft, .lowerRight, .crop, .locations, .recolor, .shift, .toOrigin, .sideNeighbors,
    .cornerNeighbors, .neighbors, .objects, .colorClasses, .foregroundClasses, .topRow, .bottomRow,
    .leftColumn, .rightColumn, .isSquare, .isVerticalLine, .isHorizontalLine, .sharesRow,
    .sharesColumn, .distance, .isAdjacent, .touchesBorder, .centroid, .palette, .colorTotal,
    .colorOf, .objectOn, .gridObject, .rotateRight, .rotateHalf, .rotateLeft, .flipRows,
    .flipColumns, .transpose, .antiTranspose, .fill, .paint, .fillUnder, .paintUnder,
    .stretchColumns, .stretchRows, .enlarge, .shrink, .beside, .above, .cropTo, .splitColumns,
    .splitRows, .agreeing, .replaceColor, .swapColors, .center, .direction, .cellAt, .canvas,
    .corners, .line, .erasePatch, .trim, .move, .topHalf, .bottomHalf, .leftHalf, .rightHalf,
    .columnThrough, .rowThrough, .boundingBox, .boxRest, .gravitate, .innerRing, .outerRing, .ring,
    .ray, .occurrences, .uniformLines, .dropUniformLines, .columnPeriod, .rowPeriod]

/-- The primitive that programs call by a word. -/
def ofName? (word : String) : Option Primitive :=
  all.find? (·.name == word)

end Primitive

end GridPuzzle
