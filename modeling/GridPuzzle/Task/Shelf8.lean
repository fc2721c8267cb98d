import GridPuzzle.Program

/-!
Programs of the tasks whose identifiers begin with the digit 8.
-/

namespace GridPuzzle

namespace Task

open Program

def task80af3007 : Program := [
  call .objects [input, yes, yes, yes],
  call .first [x 1],
  call .cropTo [x 2, input],
  call .enlarge [x 3, three],
  call .beside [x 3, x 3],
  call .beside [x 5, x 3],
  call .above [x 6, x 6],
  call .above [x 7, x 6],
  call .agreeing [x 4, x 8, zero],
  call .shrink [x 9, three]]

def task810b9b61 : Program := [
  call .objects [input, yes, yes, yes],
  call .map [fn .locations, x 1],
  call .fork [fn .either, fn .isVerticalLine, fn .isHorizontalLine],
  call .filter [x 2, x 3],
  call .without [x 2, x 4],
  call .fork [fn .equal, fn .identity, fn .ring],
  call .filterFlatten [x 5, x 6],
  call .fill [input, three, x 7]]

def task82819916 : Program := [
  call .objects [input, no, yes, yes],
  call .greatestBy [x 1, fn .size],
  call .erase [x 2, x 1],
  call .toOrigin [x 2],
  call .compose [fn .last, fn .last],
  call .bindLast [fn .leastBy, x 5],
  call .compose [fn .first, x 6],
  call .fork [fn .other, fn .palette, x 7],
  callResult 7 [x 4],
  call .hasResult [fn .first, x 9],
  call .filter [x 4, x 10],
  call .without [x 4, x 11],
  call .compose [fn .downBy, fn .topRow],
  call .bindFirst [fn .shift, x 11],
  call .bindFirst [fn .shift, x 12],
  call .compose [x 14, x 13],
  call .compose [x 15, x 13],
  call .fork [fn .recolor, x 7, x 16],
  call .fork [fn .recolor, x 8, x 17],
  call .fork [fn .union, x 18, x 19],
  call .mapFlatten [x 20, x 3],
  call .paint [input, x 21]]

def task83302e8f : Program := [
  call .objects [input, yes, no, no],
  call .selectColor [x 1, zero],
  call .filter [x 2, fn .isSquare],
  call .without [x 2, x 3],
  call .flatten [x 3],
  call .recolor [three, x 5],
  call .flatten [x 4],
  call .recolor [four, x 7],
  call .paint [input, x 6],
  call .paint [x 9, x 8]]

def task834ec97d : Program := [
  call .allLocations [input],
  call .objects [input, yes, no, yes],
  call .first [x 2],
  call .shift [x 3, down],
  call .fill [input, zero, x 3],
  call .paint [x 5, x 4],
  call .topRow [x 4],
  call .leftColumn [x 4],
  call .subtract [x 8, ten],
  call .add [x 8, ten],
  call .range [x 9, x 10, two],
  call .bindFirst [fn .greater, x 7],
  call .compose [x 12, fn .first],
  call .bindLast [fn .member, x 11],
  call .compose [x 14, fn .last],
  call .filter [x 1, x 13],
  call .filter [x 16, x 15],
  call .fill [x 6, four, x 17]]

def task8403a5d5 : Program := [
  call .allLocations [input],
  call .objects [input, yes, no, yes],
  call .first [x 2],
  call .colorOf [x 3],
  call .leftColumn [x 3],
  call .range [x 5, ten, two],
  call .bindLast [fn .member, x 6],
  call .compose [x 7, fn .last],
  call .filter [x 1, x 8],
  call .increment [x 5],
  call .add [x 5, three],
  call .range [x 10, ten, four],
  call .range [x 11, ten, four],
  call .bindFirst [fn .makePair, nine],
  call .map [fn .rightBy, x 12],
  call .map [x 14, x 13],
  call .fill [input, x 4, x 9],
  call .fill [x 17, five, x 15],
  call .fill [x 18, five, x 16]]

def task846bdb03 : Program := [
  call .objects [input, no, no, yes],
  call .bindLast [fn .countColor, four],
  call .hasResult [x 2, zero],
  call .findFirst [x 1, x 3],
  call .erase [x 4, x 1],
  call .flatten [x 5],
  call .cropTo [x 6, input],
  call .cellAt [x 7, down],
  call .cropTo [x 4, input],
  call .leftHalf [x 9],
  call .palette [x 10],
  call .other [x 11, zero],
  call .equal [x 8, x 12],
  call .choose [x 13, fn .identity, fn .flipColumns],
  callResult 14 [x 4],
  call .toOrigin [x 15],
  call .shift [x 16, unity],
  call .paint [x 7, x 17]]

def task855e0971 : Program := [
  call .uniformLines [input],
  call .filter [x 1, fn .isHorizontalLine],
  call .size [x 2],
  call .isPositive [x 3],
  call .choose [x 4, fn .identity, fn .transpose],
  callResult 5 [input],
  call .bindLast [fn .cropTo, x 6],
  call .hasResult [fn .colorOf, zero],
  call .compose [fn .not, x 8],
  call .colorClasses [x 6],
  call .filter [x 10, x 9],
  call .bindLast [fn .locationsOf, zero],
  call .bindFirst [fn .mapFlatten, fn .columnThrough],
  call .compose3 [x 13, x 12, x 7],
  call .fork [fn .shift, x 14, fn .upperLeft],
  call .fork [fn .intersect, fn .locations, x 15],
  call .mapFlatten [x 16, x 11],
  call .fill [x 6, zero, x 17],
  callResult 5 [x 18]]

def task85c4e7cd : Program := [
  call .objects [input, yes, no, no],
  call .compose [fn .negate, fn .size],
  call .sortBy [x 1, fn .size],
  call .sortBy [x 1, x 2],
  call .map [fn .colorOf, x 4],
  call .zipMapFlatten [fn .recolor, x 5, x 3],
  call .paint [input, x 6]]

def task868de0fa : Program := [
  call .objects [input, yes, no, no],
  call .filter [x 1, fn .isSquare],
  call .compose [fn .isEven, fn .height],
  call .filter [x 2, x 3],
  call .without [x 2, x 4],
  call .flatten [x 4],
  call .flatten [x 5],
  call .fill [input, two, x 6],
  call .fill [x 8, seven, x 7]]

def task8731374e : Program := [
  call .objects [input, yes, no, no],
  call .greatestBy [x 1, fn .size],
  call .cropTo [x 2, input],
  call .height [x 3],
  call .width [x 3],
  call .splitRows [x 3, x 4],
  call .bindFirst [fn .greater, four],
  call .compose [x 7, fn .colorTotal],
  call .filter [x 6, x 8],
  call .flatten [x 9],
  call .rotateRight [x 10],
  call .splitRows [x 11, x 5],
  call .filter [x 12, x 8],
  call .flatten [x 13],
  call .rotateLeft [x 14],
  call .leastColor [x 15],
  call .locationsOf [x 15, x 16],
  call .fork [fn .union, fn .columnThrough, fn .rowThrough],
  call .mapFlatten [x 18, x 17],
  call .fill [x 15, x 16, x 19]]

def task88a10436 : Program := [
  call .objects [input, no, no, yes],
  call .selectColor [x 1, five],
  call .first [x 2],
  call .center [x 3],
  call .without [x 1, x 2],
  call .first [x 5],
  call .toOrigin [x 6],
  call .shift [x 7, x 4],
  call .shift [x 8, negUnity],
  call .paint [input, x 9]]

def task88a62173 : Program := [
  call .leftHalf [input],
  call .rightHalf [input],
  call .topHalf [x 1],
  call .topHalf [x 2],
  call .bottomHalf [x 1],
  call .bottomHalf [x 2],
  call .makePair [x 3, x 4],
  call .makePair [x 5, x 6],
  call .union [x 7, x 8],
  call .leastCommon [x 9]]

def task890034e9 : Program := [
  call .leastColor [input],
  call .locationsOf [input, x 1],
  call .innerRing [x 2],
  call .recolor [zero, x 3],
  call .occurrences [input, x 4],
  call .toOrigin [x 2],
  call .shift [x 6, negUnity],
  call .bindFirst [fn .shift, x 7],
  call .mapFlatten [x 8, x 5],
  call .fill [input, x 1, x 9]]

def task8a004b2b : Program := [
  call .objects [input, no, yes, yes],
  call .locationsOf [input, four],
  call .cropTo [x 2, input],
  call .greatestBy [x 1, fn .bottomRow],
  call .toOrigin [x 4],
  call .replaceColor [x 3, four, zero],
  call .objects [x 6, yes, no, yes],
  call .flatten [x 7],
  call .width [x 8],
  call .upperLeft [x 8],
  call .width [x 4],
  call .divide [x 9, x 11],
  call .enlarge [x 5, x 12],
  call .shift [x 13, x 10],
  call .paint [x 3, x 14]]

def task8be77c9e : Program := [
  call .flipRows [input],
  call .above [input, x 1]]

def task8d5021e8 : Program := [
  call .flipColumns [input],
  call .beside [x 1, input],
  call .flipRows [x 2],
  call .above [x 2, x 3],
  call .above [x 4, x 2],
  call .flipRows [x 5]]

def task8d510a79 : Program := [
  call .locationsOf [input, one],
  call .locationsOf [input, two],
  call .locationsOf [input, five],
  call .topRow [x 3],
  call .compose3 [fn .downBy, fn .decrement, fn .double],
  call .bindFirst [fn .greater, x 4],
  call .compose [x 6, fn .first],
  call .compose3 [fn .negate, x 5, x 7],
  call .fork [fn .ray, fn .identity, x 8],
  call .compose [x 5, x 7],
  call .fork [fn .ray, fn .identity, x 10],
  call .bindFirst [fn .hasResult, x 7],
  call .compose [x 12, x 7],
  call .fork [fn .filter, x 11, x 13],
  call .mapFlatten [x 9, x 1],
  call .mapFlatten [x 14, x 2],
  call .fillUnder [input, two, x 16],
  call .fill [x 17, one, x 15]]

def task8e1813be : Program := [
  call .replaceColor [input, five, zero],
  call .objects [x 1, yes, yes, yes],
  call .first [x 2],
  call .isVerticalLine [x 3],
  call .choose [x 4, fn .transpose, fn .identity],
  callResult 5 [x 1],
  call .objects [x 6, yes, yes, yes],
  call .sortBy [x 7, fn .topRow],
  call .map [fn .colorOf, x 8],
  call .distinct [x 9],
  call .size [x 10],
  call .bindLast [fn .replicate, x 11],
  call .map [x 12, x 10],
  callResult 5 [x 13]]

def task8e5a5113 : Program := [
  call .crop [input, origin, threeByThree],
  call .rotateRight [x 1],
  call .rotateHalf [x 1],
  call .makePair [x 2, x 3],
  call .makePair [four, eight],
  call .map [fn .rightBy, x 5],
  call .map [fn .gridObject, x 4],
  call .zipMapFlatten [fn .shift, x 7, x 6],
  call .paint [input, x 8]]

def task8eb1be9a : Program := [
  call .objects [input, yes, yes, yes],
  call .first [x 1],
  call .range [negTwo, four, one],
  call .bindFirst [fn .shift, x 2],
  call .height [x 2],
  call .bindLast [fn .multiply, x 5],
  call .map [x 6, x 3],
  call .map [fn .downBy, x 7],
  call .mapFlatten [x 4, x 8],
  call .paint [input, x 9]]

def task8efcae92 : Program := [
  call .objects [input, yes, no, no],
  call .selectColor [x 1, one],
  call .compose [fn .size, fn .boxRest],
  call .greatestBy [x 2, x 3],
  call .cropTo [x 4, input]]

def task8f2ea7aa : Program := [
  call .objects [input, yes, no, yes],
  call .flatten [x 1],
  call .cropTo [x 2, input],
  call .enlarge [x 3, three],
  call .beside [x 3, x 3],
  call .beside [x 5, x 3],
  call .above [x 6, x 6],
  call .above [x 7, x 6],
  call .agreeing [x 4, x 8, zero]]

/-- The programs of this module by the identifiers of their tasks. -/
def shelf8 : List (String × Program) := [
  ("80af3007", task80af3007),
  ("810b9b61", task810b9b61),
  ("82819916", task82819916),
  ("83302e8f", task83302e8f),
  ("834ec97d", task834ec97d),
  ("8403a5d5", task8403a5d5),
  ("846bdb03", task846bdb03),
  ("855e0971", task855e0971),
  ("85c4e7cd", task85c4e7cd),
  ("868de0fa", task868de0fa),
  ("8731374e", task8731374e),
  ("88a10436", task88a10436),
  ("88a62173", task88a62173),
  ("890034e9", task890034e9),
  ("8a004b2b", task8a004b2b),
  ("8be77c9e", task8be77c9e),
  ("8d5021e8", task8d5021e8),
  ("8d510a79", task8d510a79),
  ("8e1813be", task8e1813be),
  ("8e5a5113", task8e5a5113),
  ("8eb1be9a", task8eb1be9a),
  ("8efcae92", task8efcae92),
  ("8f2ea7aa", task8f2ea7aa)]

end Task

end GridPuzzle
