import GridPuzzle.Program

/-!
Programs of the tasks whose identifiers begin with the digit 7.
-/

namespace GridPuzzle

namespace Task

open Program

def task72322fa7 : Program := [
  call .objects [input, no, yes, yes],
  call .hasResult [fn .colorTotal, one],
  call .filter [x 1, x 2],
  call .without [x 1, x 3],
  call .bindFirst [fn .hasResult, fn .first],
  call .compose [x 5, fn .mostColor],
  call .fork [fn .filter, fn .identity, x 6],
  call .fork [fn .without, fn .identity, x 7],
  call .bindFirst [fn .occurrences, input],
  call .compose [x 9, x 7],
  call .compose [x 9, x 8],
  call .compose [fn .upperLeft, x 8],
  call .fork [fn .subtract, fn .upperLeft, x 12],
  call .bindFirst [fn .bindLast, fn .add],
  call .compose [x 14, x 13],
  call .fork [fn .map, x 15, x 11],
  call .bindFirst [fn .bindFirst, fn .shift],
  call .compose [x 17, fn .toOrigin],
  call .fork [fn .mapFlatten, x 18, x 10],
  call .fork [fn .mapFlatten, x 18, x 16],
  call .mapFlatten [x 19, x 4],
  call .mapFlatten [x 20, x 4],
  call .paint [input, x 21],
  call .paint [x 23, x 22]]

def task72ca375d : Program := [
  call .objects [input, yes, yes, yes],
  call .toTuple [x 1],
  call .bindLast [fn .cropTo, input],
  call .map [x 3, x 2],
  call .map [fn .flipColumns, x 4],
  call .zipMap [fn .equal, x 4, x 5],
  call .zip [x 4, x 6],
  call .findFirst [x 7, fn .last],
  call .first [x 8]]

def task73251a56 : Program := [
  call .transpose [input],
  call .zipMap [fn .zip, input, x 1],
  call .bindFirst [fn .map, fn .maximum],
  call .map [x 3, x 2],
  call .mostColor [x 4],
  call .replaceColor [x 4, zero, x 5],
  call .cellAt [x 6, origin],
  call .ray [origin, unity],
  call .fill [x 6, x 7, x 8]]

def task7447852a : Program := [
  call .objects [input, yes, no, no],
  call .selectColor [x 1, zero],
  call .compose [fn .last, fn .center],
  call .sortBy [x 2, x 3],
  call .size [x 4],
  call .range [zero, x 5, three],
  call .bindLast [fn .member, x 6],
  call .compose [x 7, fn .last],
  call .range [zero, x 5, one],
  call .zip [x 4, x 9],
  call .filter [x 10, x 8],
  call .mapFlatten [fn .first, x 11],
  call .fill [input, four, x 12]]

def task7468f01a : Program := [
  call .objects [input, no, yes, yes],
  call .first [x 1],
  call .cropTo [x 2, input],
  call .flipColumns [x 3]]

def task746b3537 : Program := [
  call .compose3 [fn .size, fn .distinct, fn .first],
  callResult 1 [input],
  call .equal [x 2, one],
  call .choose [x 3, fn .transpose, fn .identity],
  callResult 4 [input],
  call .objects [x 5, yes, no, no],
  call .sortBy [x 6, fn .leftColumn],
  call .map [fn .colorOf, x 7],
  call .replicate [x 8, one],
  callResult 4 [x 9]]

def task74dd1130 : Program := [
  call .transpose [input]]

def task75b8110e : Program := [
  call .leftHalf [input],
  call .rightHalf [input],
  call .topHalf [x 1],
  call .bottomHalf [x 1],
  call .topHalf [x 2],
  call .bottomHalf [x 2],
  call .bindLast [fn .locationsOf, zero],
  call .fork [fn .without, fn .allLocations, x 7],
  call .fork [fn .objectOn, x 8, fn .identity],
  callResult 9 [x 5],
  callResult 9 [x 4],
  callResult 9 [x 6],
  call .paint [x 3, x 12],
  call .paint [x 13, x 11],
  call .paint [x 14, x 10]]

def task760b3cac : Program := [
  call .locationsOf [input, four],
  call .locationsOf [input, eight],
  call .upperLeft [x 1],
  call .cellAt [input, x 3],
  call .equal [x 4, four],
  call .choose [x 5, negOne, one],
  call .multiply [x 6, three],
  call .rightBy [x 7],
  call .flipColumns [x 2],
  call .shift [x 9, x 8],
  call .fill [input, eight, x 10]]

def task776ffc46 : Program := [
  call .objects [input, yes, no, yes],
  call .selectColor [x 1, five],
  call .fork [fn .equal, fn .locations, fn .ring],
  call .findFirst [x 2, x 3],
  call .innerRing [x 4],
  call .cropTo [x 5, input],
  call .gridObject [x 6],
  call .hasResult [fn .first, zero],
  call .compose [fn .not, x 8],
  call .filter [x 7, x 9],
  call .toOrigin [x 10],
  call .locations [x 11],
  call .compose [fn .locations, fn .toOrigin],
  call .hasResult [x 13, x 12],
  call .filterFlatten [x 1, x 14],
  call .colorOf [x 11],
  call .fill [input, x 16, x 15]]

def task77fdfe62 : Program := [
  call .locationsOf [input, eight],
  call .cropTo [x 1, input],
  call .replaceColor [input, eight, zero],
  call .replaceColor [x 3, one, zero],
  call .dropUniformLines [x 4],
  call .width [x 2],
  call .halve [x 6],
  call .enlarge [x 5, x 7],
  call .locationsOf [x 2, zero],
  call .fill [x 8, zero, x 9]]

def task780d0b14 : Program := [
  call .allLocations [input],
  call .objects [input, yes, yes, yes],
  call .bindLast [fn .greater, two],
  call .compose [x 3, fn .size],
  call .filter [x 2, x 4],
  call .toTuple [x 5],
  call .map [fn .colorOf, x 6],
  call .map [fn .center, x 6],
  call .zip [x 7, x 8],
  call .fill [input, zero, x 1],
  call .paint [x 10, x 9],
  call .bindLast [fn .greater, one],
  call .compose [fn .distinct, fn .toTuple],
  call .compose3 [x 12, fn .size, x 13],
  call .filter [x 11, x 14],
  call .rotateRight [x 15],
  call .filter [x 16, x 14],
  call .rotateLeft [x 17]]

def task7837ac64 : Program := [
  call .foregroundClasses [input],
  call .greatestBy [x 1, fn .size],
  call .erase [x 2, x 1],
  call .flatten [x 3],
  call .cropTo [x 4, input],
  call .compose3 [fn .colorOf, fn .flatten, fn .uniformLines],
  callResult 6 [input],
  call .objects [x 5, yes, no, no],
  call .selectColor [x 8, zero],
  call .bindLast [fn .objectOn, x 5],
  call .compose3 [x 10, fn .corners, fn .outerRing],
  call .bindFirst [fn .member, x 7],
  call .compose3 [x 12, fn .palette, x 11],
  call .compose [fn .colorTotal, x 11],
  call .compose [fn .not, x 13],
  call .hasResult [x 14, one],
  call .fork [fn .both, x 15, x 16],
  call .filter [x 9, x 17],
  call .compose [fn .colorOf, x 11],
  call .fork [fn .recolor, x 19, fn .identity],
  call .mapFlatten [x 20, x 18],
  call .paint [x 5, x 21],
  call .first [x 9],
  call .height [x 23],
  call .height [x 5],
  call .increment [x 24],
  call .range [zero, x 25, x 26],
  call .range [zero, x 25, one],
  call .bindLast [fn .member, x 27],
  call .compose3 [fn .not, x 29, fn .last],
  call .bindFirst [fn .map, fn .first],
  call .bindLast [fn .filter, x 30],
  call .bindLast [fn .zip, x 28],
  call .compose3 [x 31, x 32, x 33],
  call .compose [fn .transpose, x 34],
  call .iterate [x 35, two],
  callResult 36 [x 22],
  call .shrink [x 37, x 24]]

def task794b24be : Program := [
  call .locationsOf [input, one],
  call .size [x 1],
  call .decrement [x 2],
  call .canvas [zero, threeByThree],
  call .rightBy [x 3],
  call .line [origin, x 5],
  call .equal [x 2, four],
  call .insert [unity, x 6],
  call .choose [x 7, x 8, x 6],
  call .fill [x 4, two, x 9]]

def task7b6016b9 : Program := [
  call .objects [input, yes, no, no],
  call .bindLast [fn .touchesBorder, input],
  call .compose [fn .not, x 2],
  call .filterFlatten [x 1, x 3],
  call .fill [input, two, x 4],
  call .replaceColor [x 5, zero, three]]

def task7b7f7511 : Program := [
  call .isTall [input],
  call .choose [x 1, fn .topHalf, fn .leftHalf],
  callResult 2 [input]]

def task7c008303 : Program := [
  call .locationsOf [input, three],
  call .cropTo [x 1, input],
  call .locationsOf [x 2, zero],
  call .replaceColor [input, three, zero],
  call .replaceColor [x 4, eight, zero],
  call .dropUniformLines [x 5],
  call .enlarge [x 6, three],
  call .fill [x 7, zero, x 3]]

def task7ddcd7ec : Program := [
  call .objects [input, yes, no, yes],
  call .selectSize [x 1, one],
  call .without [x 1, x 2],
  call .first [x 3],
  call .colorOf [x 4],
  call .bindFirst [fn .direction, x 4],
  call .fork [fn .ray, fn .center, x 6],
  call .mapFlatten [x 7, x 2],
  call .fill [input, x 5, x 8]]

def task7df24a62 : Program := [
  call .height [input],
  call .width [input],
  call .locationsOf [input, one],
  call .locationsOf [input, four],
  call .upperLeft [x 3],
  call .cropTo [x 3, input],
  call .rotateRight [x 6],
  call .rotateHalf [x 6],
  call .rotateLeft [x 6],
  call .hasResult [fn .size, zero],
  call .bindLast [fn .locationsOf, one],
  call .compose [fn .toOrigin, x 11],
  call .bindLast [fn .locationsOf, four],
  call .bindLast [fn .shift, x 5],
  call .compose [x 14, x 13],
  call .bindFirst [fn .subtract, x 1],
  call .compose3 [fn .increment, x 16, fn .height],
  call .bindFirst [fn .subtract, x 2],
  call .compose3 [fn .increment, x 18, fn .width],
  call .bindLast [fn .range, one],
  call .bindFirst [x 20, zero],
  call .compose [x 21, x 17],
  call .compose [x 21, x 19],
  call .fork [fn .product, x 22, x 23],
  call .bindLast [fn .shift, negUnity],
  call .bindFirst [fn .bindFirst, fn .shift],
  call .compose3 [x 26, x 25, x 12],
  call .makePair [x 6, x 7],
  call .makePair [x 8, x 9],
  call .union [x 28, x 29],
  call .map [x 15, x 30],
  call .bindFirst [fn .without, x 4],
  call .map [x 32, x 31],
  call .map [fn .toOrigin, x 31],
  call .map [x 24, x 34],
  call .bindFirst [fn .bindLast, fn .without],
  call .map [x 26, x 34],
  call .map [x 36, x 33],
  call .zipMap [fn .compose, x 38, x 37],
  call .bindFirst [fn .compose, x 10],
  call .map [x 40, x 39],
  call .zipMap [fn .filter, x 35, x 41],
  call .map [x 27, x 30],
  call .zipMapFlatten [fn .mapFlatten, x 43, x 42],
  call .fill [input, one, x 44]]

def task7e0986d6 : Program := [
  call .leastColor [input],
  call .locationsOf [input, x 1],
  call .replaceColor [input, x 1, zero],
  call .leastColor [x 3],
  call .bindLast [fn .countColor, x 4],
  call .compose3 [fn .isPositive, fn .decrement, x 5],
  call .bindLast [fn .objectOn, x 3],
  call .compose3 [x 6, x 7, fn .sideNeighbors],
  call .filter [x 2, x 8],
  call .fill [x 3, x 4, x 9]]

def task7f4411dc : Program := [
  call .leastColor [input],
  call .locationsOf [input, x 1],
  call .bindLast [fn .without, x 2],
  call .bindLast [fn .greater, two],
  call .compose3 [x 4, fn .size, x 3],
  call .compose [x 5, fn .sideNeighbors],
  call .filter [x 2, x 6],
  call .fill [input, zero, x 7]]

def task7fe24cdd : Program := [
  call .rotateRight [input],
  call .rotateHalf [input],
  call .rotateLeft [input],
  call .beside [input, x 1],
  call .beside [x 3, x 2],
  call .above [x 4, x 5]]

/-- The programs of this module by the identifiers of their tasks. -/
def shelf7 : List (String × Program) := [
  ("72322fa7", task72322fa7),
  ("72ca375d", task72ca375d),
  ("73251a56", task73251a56),
  ("7447852a", task7447852a),
  ("7468f01a", task7468f01a),
  ("746b3537", task746b3537),
  ("74dd1130", task74dd1130),
  ("75b8110e", task75b8110e),
  ("760b3cac", task760b3cac),
  ("776ffc46", task776ffc46),
  ("77fdfe62", task77fdfe62),
  ("780d0b14", task780d0b14),
  ("7837ac64", task7837ac64),
  ("794b24be", task794b24be),
  ("7b6016b9", task7b6016b9),
  ("7b7f7511", task7b7f7511),
  ("7c008303", task7c008303),
  ("7ddcd7ec", task7ddcd7ec),
  ("7df24a62", task7df24a62),
  ("7e0986d6", task7e0986d6),
  ("7f4411dc", task7f4411dc),
  ("7fe24cdd", task7fe24cdd)]

end Task

end GridPuzzle
