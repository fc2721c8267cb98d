import GridPuzzle.Program

/-!
Programs of the tasks whose identifiers begin with the digit 6.
-/

namespace GridPuzzle

namespace Task

open Program

def task60b61512 : Program := [
  call .objects [input, yes, yes, yes],
  call .mapFlatten [fn .boxRest, x 1],
  call .fill [input, seven, x 2]]

def task6150a2bd : Program := [
  call .rotateHalf [input]]

def task623ea044 : Program := [
  call .objects [input, yes, no, yes],
  call .first [x 1],
  call .center [x 2],
  call .colorOf [x 2],
  call .makePair [unity, negUnity],
  call .makePair [upRight, downLeft],
  call .union [x 5, x 6],
  call .bindFirst [fn .ray, x 3],
  call .mapFlatten [x 8, x 7],
  call .fill [input, x 4, x 9]]

def task62c24649 : Program := [
  call .flipColumns [input],
  call .beside [input, x 1],
  call .flipRows [x 2],
  call .above [x 2, x 3]]

def task63613498 : Program := [
  call .crop [input, origin, threeByThree],
  call .locationsOf [x 1, zero],
  call .allLocations [x 1],
  call .without [x 3, x 2],
  call .toOrigin [x 4],
  call .objects [input, yes, no, yes],
  call .compose [fn .locations, fn .toOrigin],
  call .hasResult [x 7, x 5],
  call .filterFlatten [x 6, x 8],
  call .fill [input, five, x 9],
  call .gridObject [x 1],
  call .paint [x 10, x 11]]

def task6430c8c4 : Program := [
  call .topHalf [input],
  call .bottomHalf [input],
  call .makePair [four, four],
  call .locationsOf [x 1, zero],
  call .locationsOf [x 2, zero],
  call .intersect [x 4, x 5],
  call .canvas [zero, x 3],
  call .fill [x 7, three, x 6]]

def task6455b5f5 : Program := [
  call .objects [input, yes, no, no],
  call .selectColor [x 1, zero],
  call .greatestBy [x 1, fn .size],
  call .leastKey [x 1, fn .size],
  call .selectSize [x 2, x 4],
  call .recolor [one, x 3],
  call .flatten [x 5],
  call .paint [input, x 6],
  call .fill [x 8, eight, x 7]]

def task662c240a : Program := [
  call .splitRows [input, three],
  call .fork [fn .equal, fn .transpose, fn .identity],
  call .compose [fn .not, x 2],
  call .findFirst [x 1, x 3]]

def task67385a82 : Program := [
  call .objects [input, yes, no, no],
  call .selectColor [x 1, three],
  call .selectSize [x 2, one],
  call .without [x 2, x 3],
  call .flatten [x 4],
  call .fill [input, eight, x 5]]

def task673ef223 : Program := [
  call .objects [input, yes, no, yes],
  call .locationsOf [input, eight],
  call .replaceColor [input, eight, four],
  call .selectColor [x 1, two],
  call .leastBy [x 1, fn .topRow],
  call .map [fn .topRow, x 4],
  call .fork [fn .subtract, fn .maximum, fn .minimum],
  callResult 7 [x 6],
  call .downBy [x 8],
  call .leftColumn [x 5],
  call .equal [x 10, zero],
  call .choose [x 11, left, right],
  call .bindLast [fn .ray, x 12],
  call .mapFlatten [x 13, x 2],
  call .fillUnder [x 3, eight, x 14],
  call .shift [x 2, x 9],
  call .mapFlatten [fn .rowThrough, x 16],
  call .fillUnder [x 15, eight, x 17]]

def task6773b310 : Program := [
  call .dropUniformLines [input],
  call .neighbors [origin],
  call .insert [origin, x 2],
  call .bindLast [fn .multiply, three],
  call .map [x 4, x 3],
  call .makePair [four, four],
  call .shift [x 5, x 6],
  call .fork [fn .insert, fn .identity, fn .neighbors],
  call .map [x 8, x 7],
  call .bindLast [fn .objectOn, x 1],
  call .map [x 10, x 9],
  call .bindLast [fn .countColor, six],
  call .hasResult [x 12, two],
  call .filterFlatten [x 11, x 13],
  call .fill [x 1, one, x 14],
  call .replaceColor [x 15, six, zero],
  call .shrink [x 16, three]]

def task67a3c6ac : Program := [
  call .flipColumns [input]]

def task67a423a3 : Program := [
  call .leastColor [input],
  call .objects [input, yes, no, yes],
  call .selectColor [x 2, x 1],
  call .flatten [x 3],
  call .boxRest [x 4],
  call .first [x 5],
  call .neighbors [x 6],
  call .fill [input, four, x 7]]

def task67e8384a : Program := [
  call .flipColumns [input],
  call .beside [input, x 1],
  call .flipRows [x 2],
  call .above [x 2, x 3]]

def task681b3aeb : Program := [
  call .rotateLeft [input],
  call .objects [x 1, yes, no, yes],
  call .greatestBy [x 2, fn .size],
  call .leastBy [x 2, fn .size],
  call .colorOf [x 4],
  call .canvas [x 5, threeByThree],
  call .toOrigin [x 3],
  call .paint [x 6, x 7],
  call .rotateRight [x 8]]

def task6855a6e4 : Program := [
  call .foregroundClasses [input],
  call .rotateRight [input],
  call .selectColor [x 1, two],
  call .first [x 3],
  call .isTall [x 4],
  call .choose [x 5, input, x 2],
  call .objects [x 6, yes, no, yes],
  call .selectColor [x 7, five],
  call .map [fn .center, x 8],
  call .leastKey [x 9, fn .first],
  call .compose [fn .first, fn .center],
  call .hasResult [x 11, x 10],
  call .compose [fn .not, x 12],
  call .findFirst [x 8, x 12],
  call .findFirst [x 8, x 13],
  call .upperLeft [x 14],
  call .upperLeft [x 15],
  call .cropTo [x 14, x 6],
  call .cropTo [x 15, x 6],
  call .flipRows [x 18],
  call .flipRows [x 19],
  call .locationsOf [x 20, five],
  call .recolor [five, x 22],
  call .locationsOf [x 21, five],
  call .recolor [five, x 24],
  call .height [x 23],
  call .height [x 25],
  call .add [three, x 26],
  call .add [three, x 27],
  call .downBy [x 28],
  call .downBy [x 29],
  call .add [x 16, x 30],
  call .subtract [x 17, x 31],
  call .shift [x 23, x 32],
  call .shift [x 25, x 33],
  call .flatten [x 8],
  call .erasePatch [x 6, x 36],
  call .paint [x 37, x 34],
  call .paint [x 38, x 35],
  call .rotateLeft [x 39],
  call .choose [x 5, x 39, x 40]]

def task68b16354 : Program := [
  call .flipRows [input]]

def task694f12f3 : Program := [
  call .objects [input, yes, no, no],
  call .selectColor [x 1, four],
  call .compose [fn .boundingBox, fn .innerRing],
  call .leastBy [x 2, fn .size],
  call .greatestBy [x 2, fn .size],
  callResult 3 [x 4],
  callResult 3 [x 5],
  call .fill [input, one, x 6],
  call .fill [x 8, two, x 7]]

def task6a1e5592 : Program := [
  call .width [input],
  call .objects [input, yes, no, yes],
  call .makePair [five, x 1],
  call .crop [input, origin, x 3],
  call .selectColor [x 2, five],
  call .flatten [x 5],
  call .erasePatch [input, x 6],
  call .compose [fn .locations, fn .toOrigin],
  call .map [x 8, x 5],
  call .allLocations [x 4],
  call .locationsOf [x 4, zero],
  call .locationsOf [x 4, two],
  call .bindLast [fn .multiply, ten],
  call .bindLast [fn .multiply, five],
  call .bindLast [fn .intersect, x 12],
  call .bindLast [fn .intersect, x 11],
  call .bindLast [fn .intersect, x 10],
  call .compose3 [x 13, fn .size, x 15],
  call .compose3 [fn .size, x 16, fn .boxRest],
  call .compose [x 14, fn .topRow],
  call .compose3 [fn .size, x 16, fn .outerRing],
  call .compose3 [x 13, fn .size, x 17],
  call .compose [fn .negate, x 18],
  call .fork [fn .add, x 22, x 23],
  call .fork [fn .subtract, x 24, x 21],
  call .fork [fn .subtract, x 25, x 20],
  call .fork [fn .subtract, x 26, x 19],
  call .bindLast [fn .map, x 10],
  call .bindFirst [fn .bindFirst, fn .shift],
  call .bindLast [fn .greatestBy, x 27],
  call .compose3 [x 30, x 28, x 29],
  call .mapFlatten [x 31, x 9],
  call .fill [x 7, one, x 32]]

def task6aa20dc0 : Program := [
  call .objects [input, no, yes, yes],
  call .greatestBy [x 1, fn .colorTotal],
  call .toOrigin [x 2],
  call .bindFirst [fn .hasResult, fn .first],
  call .compose [x 4, fn .mostColor],
  call .fork [fn .filter, fn .identity, x 5],
  call .fork [fn .without, fn .identity, x 6],
  call .bindFirst [fn .bindLast, fn .enlarge],
  call .range [one, four, one],
  call .map [x 8, x 9],
  call .singleton [fn .identity],
  call .insert [fn .flipColumns, x 11],
  call .insert [fn .flipRows, x 12],
  call .insert [fn .antiTranspose, x 13],
  call .insert [fn .transpose, x 14],
  call .fork [fn .compose, fn .first, fn .last],
  call .bindFirst [fn .occurrences, input],
  call .bindFirst [fn .bindFirst, fn .shift],
  call .compose [x 17, x 7],
  call .product [x 15, x 10],
  call .map [x 16, x 20],
  call .mapFunctions [x 21, x 3],
  call .fork [fn .mapFlatten, x 18, x 19],
  call .mapFlatten [x 23, x 22],
  call .paint [input, x 24]]

def task6b9890af : Program := [
  call .objects [input, yes, yes, yes],
  call .locationsOf [input, two],
  call .leastBy [x 1, fn .size],
  call .cropTo [x 2, input],
  call .width [x 4],
  call .divide [x 5, three],
  call .enlarge [x 3, x 6],
  call .toOrigin [x 7],
  call .shift [x 8, unity],
  call .paint [x 4, x 9]]

def task6c434453 : Program := [
  call .objects [input, yes, no, yes],
  call .selectSize [x 1, eight],
  call .sideNeighbors [unity],
  call .insert [unity, x 3],
  call .flatten [x 2],
  call .erasePatch [input, x 5],
  call .map [fn .upperLeft, x 2],
  call .bindFirst [fn .shift, x 4],
  call .mapFlatten [x 8, x 7],
  call .fill [x 6, two, x 9]]

def task6cdd2623 : Program := [
  call .leastColor [input],
  call .locationsOf [input, x 1],
  call .productMap [fn .line, x 2, x 2],
  call .foregroundClasses [input],
  call .flatten [x 4],
  call .erasePatch [input, x 5],
  call .fork [fn .either, fn .isHorizontalLine, fn .isVerticalLine],
  call .ring [x 5],
  call .bindLast [fn .without, x 8],
  call .compose3 [fn .isPositive, fn .size, x 9],
  call .fork [fn .both, x 7, x 10],
  call .filterFlatten [x 3, x 11],
  call .fill [x 6, x 1, x 12]]

def task6cf79266 : Program := [
  call .locationsOf [input, zero],
  call .makePair [zero, origin],
  call .singleton [x 2],
  call .enlarge [x 3, three],
  call .locations [x 4],
  call .bindFirst [fn .shift, x 5],
  call .bindLast [fn .without, x 1],
  call .compose3 [fn .size, x 7, x 6],
  call .hasResult [x 8, zero],
  call .bindFirst [fn .add, negUnity],
  call .compose3 [fn .not, x 9, x 10],
  call .fork [fn .both, x 9, x 11],
  call .filter [x 1, x 12],
  call .mapFlatten [x 6, x 13],
  call .fill [input, one, x 14]]

def task6d0160f0 : Program := [
  call .locationsOf [input, four],
  call .first [x 1],
  call .first [x 2],
  call .last [x 2],
  call .greater [x 3, three],
  call .greater [x 3, seven],
  call .greater [x 4, three],
  call .greater [x 4, seven],
  call .choose [x 5, four, zero],
  call .choose [x 6, eight, x 9],
  call .choose [x 7, four, zero],
  call .choose [x 8, eight, x 11],
  call .makePair [x 10, x 12],
  call .singleton [zero],
  call .insert [four, x 14],
  call .insert [eight, x 15],
  call .product [x 16, x 16],
  call .crop [input, origin, threeByThree],
  call .allLocations [x 18],
  call .recolor [zero, x 19],
  call .bindFirst [fn .shift, x 20],
  call .mapFlatten [x 21, x 17],
  call .paint [input, x 22],
  call .crop [input, x 13, threeByThree],
  call .replaceColor [x 24, five, zero],
  call .locationsOf [x 25, four],
  call .first [x 26],
  call .allLocations [x 25],
  call .objectOn [x 28, x 25],
  call .multiply [x 27, four],
  call .shift [x 29, x 30],
  call .paint [x 23, x 31]]

def task6d0aefbc : Program := [
  call .flipColumns [input],
  call .beside [input, x 1]]

def task6d58a25d : Program := [
  call .objects [input, yes, yes, yes],
  call .greatestBy [x 1, fn .size],
  call .erase [x 2, x 1],
  call .flatten [x 3],
  call .colorOf [x 4],
  call .topRow [x 2],
  call .bindLast [fn .greater, x 6],
  call .compose [x 7, fn .topRow],
  call .bindLast [fn .sharesColumn, x 2],
  call .fork [fn .both, x 9, x 8],
  call .filter [x 3, x 10],
  call .increment [x 6],
  call .bindLast [fn .greater, x 12],
  call .compose [x 13, fn .first],
  call .bindLast [fn .filter, x 14],
  call .compose3 [x 15, fn .columnThrough, fn .center],
  call .mapFlatten [x 16, x 11],
  call .fillUnder [input, x 5, x 17]]

def task6d75e8bb : Program := [
  call .objects [input, yes, no, yes],
  call .first [x 1],
  call .upperLeft [x 2],
  call .cropTo [x 2, input],
  call .replaceColor [x 4, zero, two],
  call .gridObject [x 5],
  call .shift [x 6, x 3],
  call .paint [input, x 7]]

def task6e02f1e3 : Program := [
  call .colorTotal [input],
  call .canvas [zero, threeByThree],
  call .equal [x 1, three],
  call .equal [x 1, two],
  call .choose [x 3, twoByZero, origin],
  call .choose [x 4, twoByTwo, zeroByTwo],
  call .line [x 5, x 6],
  call .fill [x 2, five, x 7]]

def task6e19193c : Program := [
  call .leastColor [input],
  call .objects [input, yes, no, yes],
  call .bindLast [fn .objectOn, input],
  call .compose [fn .first, fn .boxRest],
  call .bindLast [fn .countColor, x 1],
  call .hasResult [x 5, two],
  call .compose3 [x 6, x 3, fn .sideNeighbors],
  call .bindLast [fn .filter, x 7],
  call .compose3 [fn .first, x 8, fn .locations],
  call .fork [fn .subtract, x 4, x 9],
  call .fork [fn .ray, x 4, x 10],
  call .mapFlatten [x 11, x 2],
  call .fill [input, x 1, x 12],
  call .mapFlatten [fn .boxRest, x 2],
  call .fill [x 13, zero, x 14]]

def task6e82a1ae : Program := [
  call .objects [input, yes, no, yes],
  call .bindFirst [fn .selectSize, x 1],
  call .compose [fn .flatten, x 2],
  callResult 3 [two],
  callResult 3 [three],
  callResult 3 [four],
  call .fill [input, three, x 4],
  call .fill [x 7, two, x 5],
  call .fill [x 8, one, x 6]]

def task6ecd11f4 : Program := [
  call .objects [input, no, yes, yes],
  call .greatestBy [x 1, fn .size],
  call .leastBy [x 1, fn .size],
  call .cropTo [x 2, input],
  call .cropTo [x 3, input],
  call .width [x 4],
  call .width [x 5],
  call .divide [x 6, x 7],
  call .shrink [x 4, x 8],
  call .locationsOf [x 9, zero],
  call .fill [x 5, zero, x 10]]

def task6f8cd79b : Program := [
  call .allLocations [input],
  call .map [fn .singleton, x 1],
  call .bindLast [fn .touchesBorder, input],
  call .filterFlatten [x 2, x 3],
  call .fill [input, eight, x 4]]

def task6fa7a44f : Program := [
  call .flipRows [input],
  call .above [input, x 1]]

/-- The programs of this module by the identifiers of their tasks. -/
def shelf6 : List (String × Program) := [
  ("60b61512", task60b61512),
  ("6150a2bd", task6150a2bd),
  ("623ea044", task623ea044),
  ("62c24649", task62c24649),
  ("63613498", task63613498),
  ("6430c8c4", task6430c8c4),
  ("6455b5f5", task6455b5f5),
  ("662c240a", task662c240a),
  ("67385a82", task67385a82),
  ("673ef223", task673ef223),
  ("6773b310", task6773b310),
  ("67a3c6ac", task67a3c6ac),
  ("67a423a3", task67a423a3),
  ("67e8384a", task67e8384a),
  ("681b3aeb", task681b3aeb),
  ("6855a6e4", task6855a6e4),
  ("68b16354", task68b16354),
  ("694f12f3", task694f12f3),
  ("6a1e5592", task6a1e5592),
  ("6aa20dc0", task6aa20dc0),
  ("6b9890af", task6b9890af),
  ("6c434453", task6c434453),
  ("6cdd2623", task6cdd2623),
  ("6cf79266", task6cf79266),
  ("6d0160f0", task6d0160f0),
  ("6d0aefbc", task6d0aefbc),
  ("6d58a25d", task6d58a25d),
  ("6d75e8bb", task6d75e8bb),
  ("6e02f1e3", task6e02f1e3),
  ("6e19193c", task6e19193c),
  ("6e82a1ae", task6e82a1ae),
  ("6ecd11f4", task6ecd11f4),
  ("6f8cd79b", task6f8cd79b),
  ("6fa7a44f", task6fa7a44f)]

end Task

end GridPuzzle
