import GridPuzzle.Program

/-!
Programs of the tasks whose identifiers begin with the digit 9.
-/

namespace GridPuzzle

namespace Task

open Program

def task90c28cc7 : Program := [
  call .objects [input, no, no, yes],
  call .first [x 1],
  call .cropTo [x 2, input],
  call .distinct [x 3],
  call .rotateRight [x 4],
  call .distinct [x 5],
  call .rotateLeft [x 6]]

def task90f3ed37 : Program := [
  call .objects [input, yes, yes, yes],
  call .sortBy [x 1, fn .topRow],
  call .first [x 2],
  call .erase [x 3, x 2],
  call .toOrigin [x 3],
  call .bindFirst [fn .shift, x 5],
  call .compose [x 6, fn .upperLeft],
  call .range [two, negOne, negOne],
  call .map [fn .rightBy, x 8],
  call .bindLast [fn .map, x 9],
  call .bindFirst [fn .compose, fn .size],
  call .bindFirst [fn .bindFirst, fn .intersect],
  call .compose [x 11, x 12],
  call .bindFirst [fn .bindFirst, fn .shift],
  call .compose3 [x 10, x 14, x 7],
  call .fork [fn .greatestBy, x 15, x 13],
  call .mapFlatten [x 16, x 4],
  call .fillUnder [input, one, x 17]]

def task913fb3ed : Program := [
  call .locationsOf [input, three],
  call .locationsOf [input, eight],
  call .locationsOf [input, two],
  call .mapFlatten [fn .neighbors, x 1],
  call .mapFlatten [fn .neighbors, x 2],
  call .mapFlatten [fn .neighbors, x 3],
  call .fill [input, six, x 4],
  call .fill [x 7, four, x 5],
  call .fill [x 8, one, x 6]]

def task91413438 : Program := [
  call .countColor [input, zero],
  call .subtract [nine, x 1],
  call .multiply [x 1, three],
  call .multiply [x 3, x 1],
  call .subtract [x 4, three],
  call .makePair [three, x 5],
  call .canvas [zero, x 6],
  call .beside [input, x 7],
  call .objects [x 8, yes, yes, yes],
  call .first [x 9],
  call .bindFirst [fn .shift, x 10],
  call .compose [x 11, fn .rightBy],
  call .range [zero, x 2, one],
  call .bindLast [fn .multiply, three],
  call .map [x 14, x 13],
  call .mapFlatten [x 12, x 15],
  call .paint [x 8, x 16],
  call .splitColumns [x 17, x 1],
  call .flatten [x 18]]

def task91714a58 : Program := [
  call .shape [input],
  call .allLocations [input],
  call .objects [input, yes, no, yes],
  call .greatestBy [x 3, fn .size],
  call .mostColor [x 4],
  call .canvas [zero, x 1],
  call .paint [x 6, x 4],
  call .bindLast [fn .objectOn, x 7],
  call .bindLast [fn .countColor, x 5],
  call .compose3 [x 9, x 8, fn .neighbors],
  call .bindFirst [fn .greater, three],
  call .compose [x 11, x 10],
  call .filter [x 2, x 12],
  call .fill [x 7, zero, x 13]]

def task9172f3a0 : Program := [
  call .enlarge [input, three]]

def task928ad970 : Program := [
  call .locationsOf [input, five],
  call .cropTo [x 1, input],
  call .trim [x 2],
  call .leastColor [x 3],
  call .innerRing [x 1],
  call .fill [input, x 4, x 5]]

def task93b581b8 : Program := [
  call .foregroundClasses [input],
  call .compose3 [fn .antiTranspose, fn .transpose, fn .flatten],
  callResult 2 [x 1],
  call .enlarge [x 3, three],
  call .makePair [negTwo, negTwo],
  call .shift [x 4, x 5],
  call .paintUnder [input, x 6],
  call .locations [x 3],
  call .fork [fn .union, fn .rowThrough, fn .columnThrough],
  call .mapFlatten [x 9, x 8],
  call .without [x 10, x 8],
  call .fill [x 7, zero, x 11]]

def task941d9a10 : Program := [
  call .shape [input],
  call .objects [input, yes, no, no],
  call .selectColor [x 2, zero],
  call .map [fn .locations, x 3],
  call .bindFirst [fn .bindFirst, fn .member],
  call .bindFirst [fn .findFirst, x 4],
  call .compose [x 6, x 5],
  call .decrement [x 1],
  call .makePair [five, five],
  callResult 7 [origin],
  callResult 7 [x 8],
  callResult 7 [x 9],
  call .fill [input, one, x 10],
  call .fill [x 13, three, x 11],
  call .fill [x 14, two, x 12]]

def task94f9d214 : Program := [
  call .topHalf [input],
  call .bottomHalf [input],
  call .locationsOf [x 1, zero],
  call .locationsOf [x 2, zero],
  call .makePair [four, four],
  call .canvas [zero, x 5],
  call .intersect [x 3, x 4],
  call .fill [x 6, two, x 7]]

def task952a094c : Program := [
  call .objects [input, yes, no, yes],
  call .selectSize [x 1, one],
  call .greatestBy [x 1, fn .size],
  call .outerRing [x 3],
  call .corners [x 4],
  call .bindFirst [fn .bindLast, fn .distance],
  call .bindFirst [fn .greatestBy, x 2],
  call .compose3 [x 7, x 6, fn .singleton],
  call .compose [fn .colorOf, x 8],
  call .fork [fn .makePair, x 9, fn .identity],
  call .map [x 10, x 5],
  call .flatten [x 2],
  call .erasePatch [input, x 12],
  call .paint [x 13, x 11]]

def task9565186b : Program := [
  call .shape [input],
  call .objects [input, yes, no, no],
  call .greatestBy [x 2, fn .size],
  call .canvas [five, x 1],
  call .paint [x 4, x 3]]

def task95990924 : Program := [
  call .objects [input, yes, no, yes],
  call .map [fn .outerRing, x 1],
  call .map [fn .upperLeft, x 2],
  call .map [fn .upperRight, x 2],
  call .map [fn .lowerLeft, x 2],
  call .map [fn .lowerRight, x 2],
  call .fill [input, one, x 3],
  call .fill [x 7, two, x 4],
  call .fill [x 8, three, x 5],
  call .fill [x 9, four, x 6]]

def task963e52fc : Program := [
  call .width [input],
  call .gridObject [input],
  call .columnPeriod [x 2],
  call .height [x 2],
  call .makePair [x 4, x 3],
  call .upperLeft [x 2],
  call .crop [input, x 6, x 5],
  call .rotateRight [x 7],
  call .double [x 1],
  call .divide [x 9, x 3],
  call .increment [x 10],
  call .replicate [x 8, x 11],
  call .flatten [x 12],
  call .rotateLeft [x 13],
  call .makePair [x 4, x 9],
  call .crop [x 14, origin, x 15]]

def task97999447 : Program := [
  call .objects [input, yes, no, yes],
  call .map [fn .locations, x 1],
  call .bindLast [fn .ray, right],
  call .compose [x 3, fn .center],
  call .fork [fn .recolor, fn .colorOf, x 4],
  call .mapFlatten [x 5, x 1],
  call .paint [input, x 6],
  call .range [zero, five, one],
  call .map [fn .double, x 8],
  call .map [fn .increment, x 9],
  call .map [fn .rightBy, x 10],
  call .productMap [fn .shift, x 2, x 11],
  call .flatten [x 12],
  call .fill [x 7, five, x 13]]

def task97a05b5b : Program := [
  call .objects [input, no, yes, yes],
  call .greatestBy [x 1, fn .size],
  call .cropTo [x 2, input],
  call .bindLast [fn .greater, one],
  call .compose [x 4, fn .colorTotal],
  call .filter [x 1, x 5],
  call .bindFirst [fn .bindLast, fn .subtract],
  call .swapColors [x 3, two, zero],
  call .bindFirst [fn .occurrences, x 8],
  call .bindFirst [fn .bindFirst, fn .shift],
  call .compose [x 7, fn .upperLeft],
  call .hasResult [fn .first, two],
  call .compose [fn .not, x 12],
  call .bindLast [fn .filter, x 12],
  call .bindLast [fn .filter, x 13],
  call .bindFirst [fn .recolor, zero],
  call .compose [x 16, x 15],
  call .fork [fn .union, x 17, x 14],
  call .compose3 [x 11, x 18, fn .toOrigin],
  call .objects [x 8, yes, yes, yes],
  call .map [fn .locations, x 20],
  call .compose3 [x 9, x 18, fn .toOrigin],
  call .bindLast [fn .countColor, two],
  call .bindFirst [fn .filter, x 21],
  call .compose3 [fn .size, fn .first, x 24],
  call .compose [fn .isPositive, fn .size],
  call .bindFirst [fn .bindFirst, fn .member],
  call .compose3 [x 26, x 24, x 27],
  call .compose [x 25, x 27],
  call .bindLast [fn .filter, x 28],
  call .compose [x 30, x 22],
  call .bindFirst [fn .bindLast, fn .equal],
  call .bindLast [fn .compose, x 29],
  call .compose3 [x 33, x 32, x 23],
  call .fork [fn .filter, x 31, x 34],
  call .fork [fn .map, x 19, x 35],
  call .compose [x 10, fn .toOrigin],
  call .fork [fn .mapFlatten, x 37, x 36],
  call .makePair [fn .antiTranspose, fn .transpose],
  call .makePair [fn .flipRows, fn .flipColumns],
  call .union [x 39, x 40],
  call .product [x 41, x 41],
  call .fork [fn .compose, fn .first, fn .last],
  call .map [x 43, x 42],
  call .bindFirst [fn .mapFunctions, x 44],
  call .mapFlatten [x 45, x 6],
  call .mapFlatten [x 38, x 46],
  call .paint [x 3, x 47],
  call .palette [x 47],
  call .bindFirst [fn .erase, two],
  callResult 50 [x 49],
  call .compose3 [fn .first, x 50, fn .palette],
  call .bindLast [fn .member, x 51],
  call .compose3 [fn .not, x 53, x 52],
  call .filter [x 6, x 54],
  call .fork [fn .map, x 19, x 22],
  call .fork [fn .mapFlatten, x 37, x 56],
  call .mapFlatten [x 45, x 55],
  call .mapFlatten [x 57, x 58],
  call .paint [x 48, x 59]]

def task98cf29f8 : Program := [
  call .foregroundClasses [input],
  call .fork [fn .multiply, fn .height, fn .width],
  call .fork [fn .equal, fn .size, x 2],
  call .findFirst [x 1, x 3],
  call .other [x 1, x 4],
  call .colorOf [x 5],
  call .bindLast [fn .greater, three],
  call .bindLast [fn .objectOn, input],
  call .bindLast [fn .countColor, x 6],
  call .compose3 [x 8, fn .cornerNeighbors, fn .last],
  call .compose3 [x 7, x 9, x 10],
  call .filter [x 5, x 11],
  call .outerRing [x 12],
  call .boundingBox [x 13],
  call .erasePatch [input, x 5],
  call .gravitate [x 14, x 4],
  call .shift [x 14, x 16],
  call .fill [x 15, x 6, x 17]]

def task995c5fa3 : Program := [
  call .splitColumns [input, three],
  call .makePair [two, one],
  call .bindLast [fn .locationsOf, zero],
  call .compose [fn .upperLeft, x 3],
  call .compose [fn .size, x 3],
  call .hasResult [x 5, zero],
  call .hasResult [x 4, unity],
  call .hasResult [x 4, down],
  call .hasResult [x 4, x 2],
  call .bindLast [fn .multiply, three],
  call .iterate [fn .double, two],
  call .compose [fn .double, x 6],
  call .compose3 [x 11, fn .double, x 7],
  call .compose [x 10, x 8],
  call .compose [x 11, x 9],
  call .fork [fn .add, x 12, x 13],
  call .fork [fn .add, x 14, x 15],
  call .fork [fn .add, x 16, x 17],
  call .bindLast [fn .canvas, unity],
  call .compose [x 19, x 18],
  call .map [x 20, x 1],
  call .flatten [x 21],
  call .stretchColumns [x 22, three]]

def task99b1bc43 : Program := [
  call .topHalf [input],
  call .bottomHalf [input],
  call .locationsOf [x 1, zero],
  call .locationsOf [x 2, zero],
  call .union [x 3, x 4],
  call .intersect [x 3, x 4],
  call .without [x 5, x 6],
  call .shape [x 1],
  call .canvas [zero, x 8],
  call .fill [x 9, three, x 7]]

def task99fa7670 : Program := [
  call .shape [input],
  call .objects [input, yes, no, yes],
  call .bindLast [fn .ray, right],
  call .compose [x 3, fn .center],
  call .fork [fn .recolor, fn .colorOf, x 4],
  call .mapFlatten [x 5, x 2],
  call .paint [input, x 6],
  call .add [x 1, downLeft],
  call .singleton [x 8],
  call .recolor [zero, x 9],
  call .objects [x 7, yes, no, yes],
  call .insert [x 10, x 11],
  call .sortBy [x 12, fn .topRow],
  call .first [x 13],
  call .erase [x 10, x 13],
  call .erase [x 14, x 13],
  call .compose [fn .lowerRight, fn .first],
  call .compose [fn .lowerRight, fn .last],
  call .fork [fn .line, x 17, x 18],
  call .compose [fn .colorOf, fn .first],
  call .fork [fn .recolor, x 20, x 19],
  call .zip [x 15, x 16],
  call .mapFlatten [x 21, x 22],
  call .paintUnder [x 7, x 23]]

def task9aec4887 : Program := [
  call .objects [input, no, yes, yes],
  call .leastBy [x 1, fn .colorTotal],
  call .other [x 1, x 2],
  call .cropTo [x 3, input],
  call .toOrigin [x 2],
  call .shift [x 5, unity],
  call .locations [x 6],
  call .toOrigin [x 3],
  call .bindFirst [fn .leastBy, x 8],
  call .bindFirst [fn .bindLast, fn .distance],
  call .bindLast [fn .compose, fn .singleton],
  call .compose3 [x 11, x 10, fn .singleton],
  call .compose3 [fn .first, x 9, x 12],
  call .fork [fn .makePair, x 13, fn .identity],
  call .map [x 14, x 7],
  call .paint [x 4, x 15],
  call .fork [fn .line, fn .upperLeft, fn .lowerRight],
  callResult 17 [x 7],
  call .fork [fn .union, fn .identity, fn .flipColumns],
  callResult 19 [x 18],
  call .intersect [x 7, x 20],
  call .fill [x 16, eight, x 21]]

def task9af7a82c : Program := [
  call .objects [input, yes, no, no],
  call .sortBy [x 1, fn .size],
  call .greatestKey [x 1, fn .size],
  call .bindLast [fn .makePair, one],
  call .bindFirst [fn .subtract, x 3],
  call .compose [x 4, fn .size],
  call .compose3 [x 4, x 5, fn .size],
  call .fork [fn .canvas, fn .colorOf, x 6],
  call .bindFirst [fn .canvas, zero],
  call .compose [x 9, x 7],
  call .fork [fn .above, x 8, x 10],
  call .compose [fn .antiTranspose, x 11],
  call .map [x 12, x 2],
  call .flatten [x 13],
  call .antiTranspose [x 14]]

def task9d9215db : Program := [
  call .rotateRight [input],
  call .rotateHalf [input],
  call .rotateLeft [input],
  call .singleton [input],
  call .compose3 [fn .colorTotal, fn .leftHalf, fn .topHalf],
  call .insert [x 1, x 4],
  call .insert [x 2, x 6],
  call .insert [x 3, x 7],
  call .greatestBy [x 8, x 5],
  call .flipColumns [x 9],
  call .zipMap [fn .zip, x 9, x 10],
  call .bindFirst [fn .map, fn .maximum],
  call .map [x 12, x 11],
  call .colorClasses [x 13],
  call .selectSize [x 14, four],
  call .map [fn .lowerLeft, x 15],
  call .map [fn .lowerRight, x 15],
  call .union [x 16, x 17],
  call .erasePatch [x 13, x 18],
  call .rightBy [negTwo],
  call .bindLast [fn .add, zeroByTwo],
  call .bindLast [fn .add, x 20],
  call .compose [x 21, fn .upperLeft],
  call .compose [x 22, fn .upperRight],
  call .fork [fn .line, x 23, x 24],
  call .compose [fn .isEven, fn .last],
  call .bindLast [fn .filter, x 26],
  call .compose3 [fn .toOrigin, x 27, x 25],
  call .fork [fn .shift, x 28, x 23],
  call .fork [fn .recolor, fn .colorOf, x 29],
  call .mapFlatten [x 30, x 15],
  call .paint [x 19, x 31],
  call .rotateRight [x 32],
  call .rotateHalf [x 32],
  call .rotateLeft [x 32],
  call .zipMap [fn .zip, x 32, x 33],
  call .map [x 12, x 36],
  call .zipMap [fn .zip, x 37, x 34],
  call .map [x 12, x 38],
  call .zipMap [fn .zip, x 39, x 35],
  call .map [x 12, x 40]]

def task9dfd6313 : Program := [
  call .transpose [input]]

def task9ecd008a : Program := [
  call .flipColumns [input],
  call .locationsOf [input, zero],
  call .cropTo [x 2, x 1]]

def task9edfc990 : Program := [
  call .objects [input, yes, no, no],
  call .selectColor [x 1, zero],
  call .locationsOf [input, one],
  call .bindLast [fn .isAdjacent, x 3],
  call .filterFlatten [x 2, x 4],
  call .recolor [one, x 5],
  call .paint [input, x 6]]

def task9f236235 : Program := [
  call .dropUniformLines [input],
  call .objects [input, yes, no, no],
  call .flipColumns [x 1],
  call .leastKey [x 2, fn .width],
  call .shrink [x 3, x 4]]

/-- The programs of this module by the identifiers of their tasks. -/
def shelf9 : List (String × Program) := [
  ("90c28cc7", task90c28cc7),
  ("90f3ed37", task90f3ed37),
  ("913fb3ed", task913fb3ed),
  ("91413438", task91413438),
  ("91714a58", task91714a58),
  ("9172f3a0", task9172f3a0),
  ("928ad970", task928ad970),
  ("93b581b8", task93b581b8),
  ("941d9a10", task941d9a10),
  ("94f9d214", task94f9d214),
  ("952a094c", task952a094c),
  ("9565186b", task9565186b),
  ("95990924", task95990924),
  ("963e52fc", task963e52fc),
  ("97999447", task97999447),
  ("97a05b5b", task97a05b5b),
  ("98cf29f8", task98cf29f8),
  ("995c5fa3", task995c5fa3),
  ("99b1bc43", task99b1bc43),
  ("99fa7670", task99fa7670),
  ("9aec4887", task9aec4887),
  ("9af7a82c", task9af7a82c),
  ("9d9215db", task9d9215db),
  ("9dfd6313", task9dfd6313),
  ("9ecd008a", task9ecd008a),
  ("9edfc990", task9edfc990),
  ("9f236235", task9f236235)]

end Task

end GridPuzzle
