import GridPuzzle.Program

/-!
Programs of the tasks whose identifiers begin with the digit 4.
-/

namespace GridPuzzle

namespace Task

open Program

def task40853293 : Program := [
  call .colorClasses [input],
  call .fork [fn .recolor, fn .colorOf, fn .boundingBox],
  call .map [x 2, x 1],
  call .filterFlatten [x 3, fn .isHorizontalLine],
  call .filterFlatten [x 3, fn .isVerticalLine],
  call .paint [input, x 4],
  call .paint [x 6, x 5]]

def task4093f84a : Program := [
  call .leastColor [input],
  call .replaceColor [input, x 1, five],
  call .locationsOf [input, five],
  call .isTall [x 3],
  call .choose [x 4, fn .identity, fn .transpose],
  callResult 5 [x 2],
  call .leftHalf [x 6],
  call .rightHalf [x 6],
  call .bindLast [fn .sortBy, fn .identity],
  call .bindLast [fn .sortBy, fn .negate],
  call .map [x 9, x 7],
  call .map [x 10, x 8],
  call .beside [x 11, x 12],
  callResult 5 [x 13]]

def task41e4d17e : Program := [
  call .objects [input, yes, no, yes],
  call .fork [fn .union, fn .columnThrough, fn .rowThrough],
  call .compose [x 2, fn .center],
  call .mapFlatten [x 3, x 1],
  call .fillUnder [input, six, x 4]]

def task4258a5f9 : Program := [
  call .locationsOf [input, five],
  call .mapFlatten [fn .neighbors, x 1],
  call .fill [input, one, x 2]]

def task4290ef0e : Program := [
  call .mostColor [input],
  call .foregroundClasses [input],
  call .objects [input, yes, no, yes],
  call .bindFirst [fn .selectColor, x 3],
  call .compose [x 4, fn .colorOf],
  call .compose [fn .first, x 5],
  call .fork [fn .erase, x 6, x 5],
  call .fork [fn .distance, x 6, fn .identity],
  call .bindFirst [fn .map, x 8],
  call .compose3 [fn .minimum, x 9, x 7],
  call .bindLast [fn .greatestKey, fn .width],
  call .compose [x 11, x 5],
  call .bindFirst [fn .equal, zero],
  call .bindLast [fn .choose, two],
  call .bindLast [x 14, one],
  call .compose3 [x 15, x 13, x 10],
  call .fork [fn .multiply, x 16, x 12],
  call .fork [fn .add, x 10, x 17],
  call .compose [fn .negate, x 18],
  call .sortBy [x 2, x 19],
  call .bindLast [fn .leastBy, fn .centroid],
  call .compose [fn .singleton, fn .flipColumns],
  call .fork [fn .insert, fn .transpose, x 22],
  call .fork [fn .insert, fn .antiTranspose, x 23],
  call .fork [fn .insert, fn .flipRows, x 24],
  call .compose [x 21, x 25],
  call .map [x 26, x 20],
  call .size [x 2],
  call .map [fn .size, x 2],
  call .member [one, x 29],
  call .increment [x 28],
  call .choose [x 30, x 28, x 31],
  call .double [x 32],
  call .decrement [x 33],
  call .map [fn .toOrigin, x 27],
  call .range [zero, x 32, one],
  call .zip [x 36, x 36],
  call .zipMapFlatten [fn .shift, x 35, x 37],
  call .makePair [x 34, x 34],
  call .canvas [x 1, x 39],
  call .paint [x 40, x 38],
  call .rotateRight [x 41],
  call .paint [x 42, x 38],
  call .rotateRight [x 43],
  call .paint [x 44, x 38],
  call .rotateRight [x 45],
  call .paint [x 46, x 38]]

def task42a50994 : Program := [
  call .objects [input, yes, yes, yes],
  call .selectSize [x 1, one],
  call .flatten [x 2],
  call .erasePatch [input, x 3]]

def task4347f46a : Program := [
  call .objects [input, yes, no, yes],
  call .fork [fn .without, fn .locations, fn .ring],
  call .mapFlatten [x 2, x 1],
  call .fill [input, zero, x 3]]

def task444801d8 : Program := [
  call .objects [input, yes, no, yes],
  call .selectColor [x 1, one],
  call .bindLast [fn .objectOn, input],
  call .compose3 [fn .leastColor, x 3, fn .boxRest],
  call .bindLast [fn .shift, up],
  call .compose [x 5, fn .boundingBox],
  call .fork [fn .recolor, x 4, x 6],
  call .mapFlatten [x 7, x 2],
  call .paintUnder [input, x 8]]

def task445eab21 : Program := [
  call .objects [input, yes, no, yes],
  call .fork [fn .multiply, fn .height, fn .width],
  call .greatestBy [x 1, x 2],
  call .colorOf [x 3],
  call .canvas [x 4, twoByTwo]]

def task447fd412 : Program := [
  call .objects [input, no, yes, yes],
  call .greatestBy [x 1, fn .colorTotal],
  call .toOrigin [x 2],
  call .bindFirst [fn .hasResult, fn .first],
  call .compose [x 4, fn .mostColor],
  call .fork [fn .filter, fn .identity, x 5],
  call .fork [fn .without, fn .identity, x 6],
  call .bindFirst [fn .bindLast, fn .enlarge],
  call .range [one, four, one],
  call .map [x 8, x 9],
  call .bindFirst [fn .recolor, zero],
  call .compose [x 11, fn .outerRing],
  call .fork [fn .union, fn .identity, x 12],
  call .bindFirst [fn .occurrences, input],
  call .bindFirst [fn .bindLast, fn .subtract],
  call .bindFirst [fn .map, fn .increment],
  call .bindFirst [fn .bindFirst, fn .shift],
  call .compose3 [x 15, fn .upperLeft, x 7],
  call .compose3 [x 14, x 13, x 7],
  call .fork [fn .map, x 18, x 19],
  call .compose [x 16, x 20],
  call .fork [fn .mapFlatten, x 17, x 21],
  call .mapFunctions [x 10, x 3],
  call .mapFlatten [x 22, x 23],
  call .paint [input, x 24]]

def task44d8ac46 : Program := [
  call .objects [input, yes, no, yes],
  call .map [fn .boxRest, x 1],
  call .filterFlatten [x 2, fn .isSquare],
  call .fill [input, two, x 3]]

def task44f52bb0 : Program := [
  call .flipColumns [input],
  call .equal [x 1, input],
  call .choose [x 2, one, seven],
  call .canvas [x 3, unity]]

def task4522001f : Program := [
  call .objects [input, no, no, yes],
  call .first [x 1],
  call .locations [x 2],
  call .member [zeroByTwo, x 3],
  call .member [twoByTwo, x 3],
  call .member [twoByZero, x 3],
  call .makePair [nine, nine],
  call .canvas [zero, x 7],
  call .makePair [three, origin],
  call .singleton [x 9],
  call .enlarge [x 10, two],
  call .enlarge [x 11, two],
  call .shape [x 12],
  call .shift [x 12, x 13],
  call .union [x 12, x 14],
  call .paint [x 8, x 15],
  call .rotateRight [x 16],
  call .rotateHalf [x 16],
  call .rotateLeft [x 16],
  call .choose [x 4, x 17, x 16],
  call .choose [x 5, x 18, x 20],
  call .choose [x 6, x 19, x 21]]

def task4612dd53 : Program := [
  call .locationsOf [input, one],
  call .ring [x 1],
  call .fill [input, two, x 2],
  call .cropTo [x 1, x 3],
  call .locationsOf [x 4, one],
  call .mapFlatten [fn .columnThrough, x 5],
  call .mapFlatten [fn .rowThrough, x 5],
  call .size [x 6],
  call .size [x 7],
  call .greater [x 8, x 9],
  call .choose [x 10, x 7, x 6],
  call .fill [x 4, two, x 11],
  call .locationsOf [x 12, two],
  call .upperLeft [x 1],
  call .shift [x 13, x 14],
  call .fillUnder [input, two, x 15]]

def task46442a0e : Program := [
  call .rotateRight [input],
  call .rotateHalf [input],
  call .rotateLeft [input],
  call .beside [input, x 1],
  call .beside [x 3, x 2],
  call .above [x 4, x 5]]

def task469497ad : Program := [
  call .colorTotal [input],
  call .decrement [x 1],
  call .enlarge [input, x 2],
  call .objects [x 3, no, no, yes],
  call .leastBy [x 4, fn .size],
  call .upperLeft [x 5],
  call .lowerLeft [x 5],
  call .ray [x 6, negUnity],
  call .ray [x 6, unity],
  call .ray [x 7, downLeft],
  call .ray [x 7, upRight],
  call .union [x 8, x 9],
  call .union [x 10, x 11],
  call .union [x 12, x 13],
  call .fillUnder [x 3, two, x 14],
  call .objects [x 15, yes, no, yes],
  call .greatestBy [x 16, fn .lowerRight],
  call .paint [x 15, x 17]]

def task46f33fce : Program := [
  call .rotateHalf [input],
  call .shrink [x 1, two],
  call .rotateHalf [x 2],
  call .enlarge [x 3, four]]

def task47c1f68c : Program := [
  call .leastColor [input],
  call .flipColumns [input],
  call .objects [input, yes, yes, yes],
  call .flatten [x 3],
  call .mostColor [x 4],
  call .agreeing [input, x 2, x 1],
  call .flipRows [x 6],
  call .agreeing [x 6, x 7, x 1],
  call .dropUniformLines [x 8],
  call .replaceColor [x 9, x 1, x 5]]

def task484b58aa : Program := [
  call .height [input],
  call .width [input],
  call .colorClasses [input],
  call .selectColor [x 3, zero],
  call .without [x 3, x 4],
  call .flatten [x 5],
  call .makePair [x 1, two],
  call .makePair [two, x 2],
  call .iterate [fn .decrement, two],
  callResult 9 [x 1],
  callResult 9 [x 2],
  call .downBy [x 11],
  call .rightBy [x 10],
  call .crop [input, x 12, x 8],
  call .crop [input, x 13, x 7],
  call .gridObject [x 15],
  call .gridObject [x 14],
  call .rowPeriod [x 16],
  call .columnPeriod [x 17],
  call .makePair [x 18, x 19],
  call .bindFirst [fn .multiply, x 20],
  call .neighbors [origin],
  call .mapFlatten [fn .neighbors, x 22],
  call .map [x 21, x 23],
  call .bindFirst [fn .shift, x 6],
  call .mapFlatten [x 25, x 24],
  call .paint [input, x 26]]

def task48d8fb45 : Program := [
  call .objects [input, yes, yes, yes],
  call .hasResult [fn .size, one],
  call .findFirst [x 1, x 2],
  call .bindFirst [fn .isAdjacent, x 3],
  call .findFirst [x 1, x 4],
  call .cropTo [x 5, input]]

def task4938f0c2 : Program := [
  call .objects [input, yes, yes, yes],
  call .locationsOf [input, two],
  call .flipColumns [x 2],
  call .height [x 2],
  call .width [x 2],
  call .downBy [x 4],
  call .rightBy [x 5],
  call .add [x 7, zeroByTwo],
  call .add [x 6, twoByZero],
  call .shift [x 3, x 8],
  call .fill [input, two, x 10],
  call .locationsOf [x 11, two],
  call .flipRows [x 12],
  call .shift [x 13, x 9],
  call .fill [x 11, two, x 14],
  call .size [x 1],
  call .greater [x 16, four],
  call .choose [x 17, input, x 15]]

def task496994bd : Program := [
  call .width [input],
  call .height [input],
  call .halve [x 2],
  call .makePair [x 3, x 1],
  call .crop [input, origin, x 4],
  call .flipRows [x 5],
  call .above [x 5, x 6]]

def task49d1d64f : Program := [
  call .shape [input],
  call .add [x 1, two],
  call .canvas [zero, x 2],
  call .gridObject [input],
  call .shift [x 4, unity],
  call .paint [x 3, x 5],
  call .allLocations [x 3],
  call .fork [fn .without, fn .ring, fn .corners],
  callResult 8 [x 7],
  call .bindFirst [fn .bindFirst, fn .distance],
  call .bindLast [fn .compose, fn .singleton],
  call .compose3 [x 11, x 10, fn .singleton],
  call .bindFirst [fn .leastBy, x 5],
  call .compose3 [fn .first, x 13, x 12],
  call .fork [fn .makePair, x 14, fn .identity],
  call .map [x 15, x 9],
  call .paint [x 6, x 16]]

def task4be741c5 : Program := [
  call .isTall [input],
  call .choose [x 1, fn .transpose, fn .identity],
  call .choose [x 1, fn .height, fn .width],
  callResult 3 [input],
  call .makePair [one, x 4],
  callResult 2 [input],
  call .crop [x 6, origin, x 5],
  call .map [fn .distinct, x 7],
  callResult 2 [x 8]]

def task4c4377d9 : Program := [
  call .flipRows [input],
  call .above [x 1, input]]

def task4c5c2cf0 : Program := [
  call .objects [input, yes, yes, yes],
  call .objects [input, no, yes, yes],
  call .first [x 2],
  call .bindLast [fn .cropTo, input],
  call .fork [fn .paint, x 4, fn .identity],
  call .fork [fn .equal, fn .identity, fn .rotateRight],
  call .compose [x 6, x 5],
  call .findFirst [x 1, x 7],
  call .center [x 8],
  call .cropTo [x 3, input],
  call .flipRows [x 10],
  call .objects [x 11, no, yes, yes],
  call .first [x 12],
  call .objects [x 11, yes, yes, yes],
  call .findFirst [x 14, x 7],
  call .center [x 15],
  call .subtract [x 9, x 16],
  call .shift [x 13, x 17],
  call .paint [input, x 18],
  call .objects [x 19, no, yes, yes],
  call .first [x 20],
  call .cropTo [x 21, x 19],
  call .flipColumns [x 22],
  call .objects [x 23, no, yes, yes],
  call .first [x 24],
  call .objects [x 23, yes, yes, yes],
  call .colorOf [x 8],
  call .hasResult [fn .colorOf, x 27],
  call .findFirst [x 26, x 28],
  call .center [x 29],
  call .subtract [x 9, x 30],
  call .shift [x 25, x 31],
  call .paint [x 19, x 32]]

/-- The programs of this module by the identifiers of their tasks. -/
def shelf4 : List (String × Program) := [
  ("40853293", task40853293),
  ("4093f84a", task4093f84a),
  ("41e4d17e", task41e4d17e),
  ("4258a5f9", task4258a5f9),
  ("4290ef0e", task4290ef0e),
  ("42a50994", task42a50994),
  ("4347f46a", task4347f46a),
  ("444801d8", task444801d8),
  ("445eab21", task445eab21),
  ("447fd412", task447fd412),
  ("44d8ac46", task44d8ac46),
  ("44f52bb0", task44f52bb0),
  ("4522001f", task4522001f),
  ("4612dd53", task4612dd53),
  ("46442a0e", task46442a0e),
  ("469497ad", task469497ad),
  ("46f33fce", task46f33fce),
  ("47c1f68c", task47c1f68c),
  ("484b58aa", task484b58aa),
  ("48d8fb45", task48d8fb45),
  ("4938f0c2", task4938f0c2),
  ("496994bd", task496994bd),
  ("49d1d64f", task49d1d64f),
  ("4be741c5", task4be741c5),
  ("4c4377d9", task4c4377d9),
  ("4c5c2cf0", task4c5c2cf0)]

end Task

end GridPuzzle
