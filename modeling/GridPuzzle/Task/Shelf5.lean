import GridPuzzle.Program

/-!
Programs of the tasks whose identifiers begin with the digit 5.
-/

namespace GridPuzzle

namespace Task

open Program

def task50846271 : Program := [
  call .locationsOf [input, two],
  call .productMap [fn .line, x 1, x 1],
  call .bindFirst [fn .greater, six],
  call .compose [x 3, fn .size],
  call .fork [fn .either, fn .isVerticalLine, fn .isHorizontalLine],
  call .fork [fn .both, x 4, x 5],
  call .filterFlatten [x 2, x 6],
  call .fill [input, two, x 7],
  call .objects [x 8, yes, no, no],
  call .selectColor [x 9, two],
  call .greatestKey [x 10, fn .width],
  call .halve [x 11],
  call .downBy [x 12],
  call .rightBy [x 12],
  call .bindLast [fn .add, zeroByTwo],
  call .bindLast [fn .add, twoByZero],
  call .bindLast [fn .subtract, zeroByTwo],
  call .bindLast [fn .subtract, twoByZero],
  call .bindLast [fn .countColor, two],
  call .bindLast [fn .objectOn, x 8],
  call .compose [fn .singleton, x 15],
  call .fork [fn .insert, x 16, x 21],
  call .fork [fn .insert, x 17, x 22],
  call .fork [fn .insert, x 18, x 23],
  call .fork [fn .union, fn .sideNeighbors, x 24],
  call .compose3 [x 19, x 20, x 25],
  call .bindLast [fn .greatestBy, x 26],
  call .compose [x 27, fn .locations],
  call .map [x 28, x 10],
  call .bindLast [fn .add, x 13],
  call .bindLast [fn .subtract, x 13],
  call .bindLast [fn .add, x 14],
  call .bindLast [fn .subtract, x 14],
  call .fork [fn .line, x 30, x 31],
  call .fork [fn .line, x 32, x 33],
  call .fork [fn .union, x 34, x 35],
  call .mapFlatten [x 36, x 29],
  call .fill [x 8, eight, x 37],
  call .fill [x 38, two, x 1]]

def task508bd3b6 : Program := [
  call .width [input],
  call .objects [input, yes, yes, yes],
  call .leastBy [x 2, fn .size],
  call .greatestBy [x 2, fn .size],
  call .upperLeft [x 3],
  call .upperRight [x 3],
  call .cellAt [input, x 5],
  call .equal [x 7, eight],
  call .choose [x 8, x 5, x 6],
  call .choose [x 8, unity, downLeft],
  call .multiply [x 10, x 1],
  call .double [x 11],
  call .add [x 9, x 12],
  call .subtract [x 9, x 12],
  call .line [x 13, x 14],
  call .fill [input, three, x 15],
  call .paint [x 16, x 4],
  call .objects [x 17, yes, no, yes],
  call .bindLast [fn .isAdjacent, x 4],
  call .findFirst [x 18, x 19],
  call .first [x 20],
  call .last [x 21],
  call .not [x 8],
  call .choose [x 23, unity, downLeft],
  call .multiply [x 24, x 1],
  call .double [x 25],
  call .add [x 22, x 26],
  call .subtract [x 22, x 26],
  call .line [x 27, x 28],
  call .fill [x 17, three, x 29],
  call .paint [x 30, x 3],
  call .paint [x 31, x 4]]

def task50cb2852 : Program := [
  call .objects [input, yes, no, yes],
  call .compose [fn .boundingBox, fn .innerRing],
  call .mapFlatten [x 2, x 1],
  call .fill [input, eight, x 3]]

def task5117e062 : Program := [
  call .objects [input, no, yes, yes],
  call .hasResult [fn .colorTotal, two],
  call .findFirst [x 1, x 2],
  call .cropTo [x 3, input],
  call .mostColor [x 3],
  call .replaceColor [x 4, eight, x 5]]

def task5168d44c : Program := [
  call .locationsOf [input, three],
  call .height [x 1],
  call .equal [x 2, one],
  call .choose [x 3, zeroByTwo, twoByZero],
  call .locationsOf [input, two],
  call .recolor [two, x 5],
  call .move [input, x 6, x 4]]

def task539a4f51 : Program := [
  call .shape [input],
  call .cellAt [input, origin],
  call .countColor [input, zero],
  call .decrement [x 1],
  call .isPositive [x 3],
  call .choose [x 5, x 4, x 1],
  call .crop [input, origin, x 6],
  call .width [x 7],
  call .makePair [one, x 8],
  call .crop [x 7, origin, x 9],
  call .stretchRows [x 10, x 8],
  call .transpose [x 11],
  call .beside [x 7, x 11],
  call .beside [x 12, x 7],
  call .above [x 13, x 14],
  call .gridObject [x 15],
  call .multiply [unity, ten],
  call .canvas [x 2, x 17],
  call .paint [x 18, x 16]]

def task53b68214 : Program := [
  call .width [input],
  call .objects [input, yes, yes, yes],
  call .first [x 2],
  call .rowPeriod [x 3],
  call .downBy [x 4],
  call .range [zero, nine, one],
  call .bindFirst [fn .multiply, x 5],
  call .map [x 7, x 6],
  call .bindFirst [fn .shift, x 3],
  call .mapFlatten [x 9, x 8],
  call .makePair [x 1, x 1],
  call .isTall [x 3],
  call .shape [x 3],
  call .add [down, x 13],
  call .decrement [x 14],
  call .shift [x 3, x 15],
  call .choose [x 12, x 10, x 16],
  call .canvas [zero, x 11],
  call .paint [x 18, x 3],
  call .paint [x 19, x 17]]

def task543a7ed5 : Program := [
  call .objects [input, yes, no, yes],
  call .selectColor [x 1, six],
  call .mapFlatten [fn .outerRing, x 2],
  call .fill [input, three, x 3],
  call .mapFlatten [fn .boxRest, x 2],
  call .fill [x 4, four, x 5]]

def task54d82841 : Program := [
  call .height [input],
  call .objects [input, yes, no, yes],
  call .compose [fn .last, fn .center],
  call .map [x 3, x 2],
  call .decrement [x 1],
  call .bindFirst [fn .makePair, x 5],
  call .map [x 6, x 4],
  call .fill [input, four, x 7]]

def task54d9e175 : Program := [
  call .objects [input, yes, no, yes],
  call .selectSize [x 1, one],
  call .compose [fn .neighbors, fn .center],
  call .fork [fn .recolor, fn .colorOf, x 3],
  call .mapFlatten [x 4, x 2],
  call .paint [input, x 5],
  call .replaceColor [x 6, one, six],
  call .replaceColor [x 7, two, seven],
  call .replaceColor [x 8, three, eight],
  call .replaceColor [x 9, four, nine]]

def task5521c0d9 : Program := [
  call .objects [input, yes, no, yes],
  call .flatten [x 1],
  call .erasePatch [input, x 2],
  call .compose3 [fn .downBy, fn .negate, fn .height],
  call .fork [fn .shift, fn .identity, x 4],
  call .mapFlatten [x 5, x 1],
  call .paint [x 3, x 6]]

def task5582e5ca : Program := [
  call .mostColor [input],
  call .canvas [x 1, threeByThree]]

def task5614dbcf : Program := [
  call .replaceColor [input, five, zero],
  call .shrink [x 1, three]]

def task56dc2b01 : Program := [
  call .objects [input, yes, no, yes],
  call .selectColor [x 1, three],
  call .first [x 2],
  call .locationsOf [input, two],
  call .gravitate [x 3, x 4],
  call .first [x 5],
  call .equal [x 6, zero],
  call .choose [x 7, fn .width, fn .height],
  callResult 8 [x 3],
  call .gravitate [x 4, x 3],
  call .sign [x 10],
  call .multiply [x 11, x 9],
  call .awayFromZero [x 12],
  call .recolor [eight, x 4],
  call .shift [x 14, x 13],
  call .paint [input, x 15],
  call .move [x 16, x 3, x 5]]

def task56ff96f3 : Program := [
  call .foregroundClasses [input],
  call .fork [fn .recolor, fn .colorOf, fn .boundingBox],
  call .mapFlatten [x 2, x 1],
  call .paint [input, x 3]]

def task57aa92db : Program := [
  call .objects [input, no, yes, yes],
  call .objects [input, yes, no, yes],
  call .bindFirst [fn .bindFirst, fn .countColor],
  call .fork [fn .map, x 3, fn .palette],
  call .compose [fn .maximum, x 4],
  call .compose [fn .minimum, x 4],
  call .fork [fn .subtract, x 5, x 6],
  call .greatestBy [x 1, x 7],
  call .leastColor [x 8],
  call .toOrigin [x 8],
  call .hasResult [fn .first, x 9],
  call .filter [x 10, x 11],
  call .upperLeft [x 12],
  call .selectColor [x 2, x 9],
  call .bindLast [fn .objectOn, input],
  call .bindFirst [fn .erase, zero],
  call .compose3 [fn .first, x 16, fn .palette],
  call .compose3 [x 17, x 15, fn .outerRing],
  call .bindFirst [fn .multiply, x 13],
  call .compose [x 19, fn .width],
  call .fork [fn .subtract, fn .upperLeft, x 20],
  call .bindFirst [fn .shift, x 10],
  call .compose [x 22, x 21],
  call .fork [fn .enlarge, x 23, fn .width],
  call .fork [fn .recolor, x 18, x 24],
  call .mapFlatten [x 25, x 14],
  call .paint [input, x 26],
  call .flatten [x 2],
  call .paint [x 27, x 28]]

def task5ad4f10b : Program := [
  call .objects [input, yes, yes, yes],
  call .greatestBy [x 1, fn .size],
  call .colorOf [x 2],
  call .cropTo [x 2, input],
  call .leastColor [x 4],
  call .replaceColor [x 4, x 5, zero],
  call .replaceColor [x 6, x 3, x 5],
  call .height [x 7],
  call .divide [x 8, three],
  call .shrink [x 7, x 9]]

def task5bd6f4ac : Program := [
  call .rightBy [six],
  call .crop [input, x 1, threeByThree]]

def task5c0a986e : Program := [
  call .locationsOf [input, two],
  call .locationsOf [input, one],
  call .lowerRight [x 1],
  call .upperLeft [x 2],
  call .ray [x 3, unity],
  call .ray [x 4, negUnity],
  call .fill [input, two, x 5],
  call .fill [x 7, one, x 6]]

def task5c2c9af4 : Program := [
  call .leastColor [input],
  call .locationsOf [input, x 1],
  call .center [x 2],
  call .upperLeft [x 2],
  call .subtract [x 3, x 4],
  call .multiply [negOne, nine],
  call .range [zero, nine, one],
  call .range [zero, x 6, negOne],
  call .bindFirst [fn .multiply, x 5],
  call .map [x 9, x 7],
  call .map [x 9, x 8],
  call .zip [x 10, x 11],
  call .mapFlatten [fn .ring, x 12],
  call .shift [x 13, x 3],
  call .fill [input, x 1, x 14]]

def task5daaa586 : Program := [
  call .objects [input, yes, no, no],
  call .selectColor [x 1, zero],
  call .bindLast [fn .touchesBorder, input],
  call .compose [fn .not, x 3],
  call .findFirst [x 2, x 4],
  call .outerRing [x 5],
  call .cropTo [x 6, input],
  call .foregroundClasses [x 7],
  call .greatestBy [x 8, fn .size],
  call .colorOf [x 9],
  call .locations [x 9],
  call .productMap [fn .line, x 11, x 11],
  call .filterFlatten [x 12, fn .isVerticalLine],
  call .filterFlatten [x 12, fn .isHorizontalLine],
  call .size [x 13],
  call .size [x 14],
  call .greater [x 15, x 16],
  call .choose [x 17, x 13, x 14],
  call .fill [x 7, x 10, x 18]]

/-- The programs of this module by the identifiers of their tasks. -/
def shelf5 : List (String × Program) := [
  ("50846271", task50846271),
  ("508bd3b6", task508bd3b6),
  ("50cb2852", task50cb2852),
  ("5117e062", task5117e062),
  ("5168d44c", task5168d44c),
  ("539a4f51", task539a4f51),
  ("53b68214", task53b68214),
  ("543a7ed5", task543a7ed5),
  ("54d82841", task54d82841),
  ("54d9e175", task54d9e175),
  ("5521c0d9", task5521c0d9),
  ("5582e5ca", task5582e5ca),
  ("5614dbcf", task5614dbcf),
  ("56dc2b01", task56dc2b01),
  ("56ff96f3", task56ff96f3),
  ("57aa92db", task57aa92db),
  ("5ad4f10b", task5ad4f10b),
  ("5bd6f4ac", task5bd6f4ac),
  ("5c0a986e", task5c0a986e),
  ("5c2c9af4", task5c2c9af4),
  ("5daaa586", task5daaa586)]

end Task

end GridPuzzle
