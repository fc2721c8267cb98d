import GridPuzzle.Program

/-!
Programs of the tasks whose identifiers begin with the digit b.
-/

namespace GridPuzzle

namespace Task

open Program

def taskb0c4d837 : Program := [
  call .locationsOf [input, five],
  call .locationsOf [input, eight],
  call .height [x 1],
  call .decrement [x 3],
  call .height [x 2],
  call .subtract [x 4, x 5],
  call .makePair [one, x 6],
  call .canvas [eight, x 7],
  call .subtract [six, x 6],
  call .makePair [one, x 9],
  call .canvas [zero, x 10],
  call .beside [x 8, x 11],
  call .splitColumns [x 12, two],
  call .first [x 13],
  call .last [x 13],
  call .flipColumns [x 15],
  call .above [x 14, x 16],
  call .makePair [one, three],
  call .canvas [zero, x 18],
  call .above [x 17, x 19]]

def taskb190f7f5 : Program := [
  call .isTall [input],
  call .choose [x 1, fn .splitRows, fn .splitColumns],
  callResult 2 [input, two],
  call .leastBy [x 3, fn .colorTotal],
  call .greatestBy [x 3, fn .colorTotal],
  call .width [x 5],
  call .bindLast [fn .replicate, x 6],
  call .compose3 [fn .transpose, fn .flatten, x 7],
  call .enlarge [x 5, x 6],
  callResult 8 [x 4],
  callResult 8 [x 10],
  call .locationsOf [x 11, zero],
  call .fill [x 9, zero, x 12]]

def taskb1948b0a : Program := [
  call .replaceColor [input, six, two]]

def taskb230c067 : Program := [
  call .objects [input, yes, yes, yes],
  call .toTuple [x 1],
  call .map [fn .toOrigin, x 2],
  call .leastCommon [x 3],
  call .hasResult [fn .toOrigin, x 4],
  call .findFirst [x 1, x 5],
  call .replaceColor [input, eight, one],
  call .fill [x 7, two, x 6]]

def taskb27ca6d3 : Program := [
  call .objects [input, yes, no, yes],
  call .selectSize [x 1, two],
  call .mapFlatten [fn .outerRing, x 2],
  call .fill [input, three, x 3]]

def taskb2862040 : Program := [
  call .objects [input, yes, no, no],
  call .selectColor [x 1, nine],
  call .selectColor [x 1, one],
  call .bindLast [fn .touchesBorder, input],
  call .compose [fn .not, x 4],
  call .filterFlatten [x 2, x 5],
  call .bindLast [fn .isAdjacent, x 6],
  call .filterFlatten [x 3, x 7],
  call .fill [input, eight, x 8]]

def taskb527c5c6 : Program := [
  call .objects [input, no, no, yes],
  call .hasResult [fn .first, two],
  call .bindLast [fn .filter, x 2],
  call .compose [fn .bottomRow, x 3],
  call .compose [fn .rightColumn, x 3],
  call .compose [fn .topRow, x 3],
  call .compose [fn .leftColumn, x 3],
  call .fork [fn .equal, x 4, fn .bottomRow],
  call .fork [fn .equal, x 5, fn .rightColumn],
  call .fork [fn .equal, x 6, fn .topRow],
  call .fork [fn .equal, x 7, fn .leftColumn],
  call .compose [fn .negate, x 10],
  call .compose [fn .negate, x 11],
  call .fork [fn .add, x 12, x 8],
  call .fork [fn .add, x 13, x 9],
  call .fork [fn .makePair, x 14, x 15],
  call .compose [fn .center, x 3],
  call .fork [fn .ray, x 17, x 16],
  call .mapFlatten [x 18, x 1],
  call .fill [input, two, x 19],
  call .compose [fn .isVerticalLine, x 18],
  call .filter [x 1, x 21],
  call .without [x 1, x 22],
  call .compose3 [fn .decrement, fn .minimum, fn .shape],
  call .compose [fn .increment, x 24],
  call .compose [fn .negate, x 24],
  call .bindLast [fn .range, one],
  call .fork [x 27, x 26, x 25],
  call .bindFirst [fn .map, fn .downBy],
  call .bindFirst [fn .map, fn .rightBy],
  call .bindFirst [fn .bindFirst, fn .shift],
  call .compose [x 31, x 18],
  call .compose [x 29, x 28],
  call .compose [x 30, x 28],
  call .fork [fn .mapFlatten, x 32, x 33],
  call .fork [fn .mapFlatten, x 32, x 34],
  call .mapFlatten [x 35, x 23],
  call .mapFlatten [x 36, x 22],
  call .union [x 37, x 38],
  call .fillUnder [x 20, three, x 39]]

def taskb548a754 : Program := [
  call .objects [input, yes, no, yes],
  call .replaceColor [input, eight, zero],
  call .leastColor [x 2],
  call .replaceColor [x 2, x 3, zero],
  call .leastColor [x 4],
  call .flatten [x 1],
  call .boundingBox [x 6],
  call .ring [x 6],
  call .fill [input, x 3, x 7],
  call .fill [x 9, x 5, x 8]]

def taskb60334d2 : Program := [
  call .locationsOf [input, five],
  call .replaceColor [input, five, zero],
  call .mapFlatten [fn .sideNeighbors, x 1],
  call .mapFlatten [fn .cornerNeighbors, x 1],
  call .fill [x 2, one, x 3],
  call .fill [x 5, five, x 4]]

def taskb6afb2da : Program := [
  call .objects [input, yes, no, no],
  call .replaceColor [input, five, two],
  call .selectColor [x 1, five],
  call .mapFlatten [fn .ring, x 3],
  call .fill [x 2, four, x 4],
  call .mapFlatten [fn .corners, x 3],
  call .fill [x 5, one, x 6]]

def taskb7249182 : Program := [
  call .objects [input, yes, no, yes],
  call .flatten [x 1],
  call .isTall [x 2],
  call .choose [x 3, fn .identity, fn .transpose],
  callResult 4 [input],
  call .objects [x 5, yes, no, yes],
  call .sortBy [x 6, fn .topRow],
  call .first [x 7],
  call .last [x 7],
  call .colorOf [x 8],
  call .colorOf [x 9],
  call .compose [fn .first, fn .locations],
  callResult 12 [x 8],
  callResult 12 [x 9],
  call .line [x 13, x 14],
  call .centroid [x 15],
  call .line [x 13, x 16],
  call .fill [x 5, x 11, x 15],
  call .fill [x 18, x 10, x 17],
  call .add [x 16, down],
  call .singleton [x 16],
  call .insert [x 20, x 21],
  call .objectOn [x 22, x 19],
  call .makePair [zero, negTwo],
  call .shift [x 23, zeroByTwo],
  call .shift [x 23, x 24],
  call .union [x 25, x 26],
  call .upperLeft [x 27],
  call .upperRight [x 27],
  call .line [x 28, x 29],
  call .shift [x 30, up],
  call .lowerLeft [x 27],
  call .lowerRight [x 27],
  call .line [x 32, x 33],
  call .shift [x 34, down],
  call .paint [x 19, x 27],
  call .fill [x 36, x 10, x 31],
  call .fill [x 37, x 11, x 35],
  call .erasePatch [x 38, x 22],
  callResult 4 [x 39]]

def taskb775ac94 : Program := [
  call .objects [input, no, yes, yes],
  call .bindFirst [fn .bindLast, fn .equal],
  call .bindLast [fn .compose, fn .first],
  call .compose3 [x 3, x 2, fn .mostColor],
  call .fork [fn .filter, fn .identity, x 4],
  call .fork [fn .without, fn .identity, x 5],
  call .bindFirst [fn .bindLast, fn .isAdjacent],
  call .bindLast [fn .compose, fn .singleton],
  call .compose3 [x 8, x 7, x 6],
  call .fork [fn .findFirst, x 5, x 9],
  call .fork [fn .insert, x 10, x 6],
  call .bindFirst [fn .recolor, zero],
  call .compose3 [x 12, fn .boxRest, x 11],
  call .fork [fn .union, x 11, x 13],
  call .fork [fn .direction, x 5, x 6],
  call .compose3 [fn .downBy, fn .first, x 15],
  call .compose3 [fn .rightBy, fn .last, x 15],
  call .fork [fn .multiply, fn .shape, x 16],
  call .fork [fn .multiply, fn .shape, x 17],
  call .fork [fn .multiply, fn .shape, x 15],
  call .fork [fn .shift, fn .flipRows, x 18],
  call .fork [fn .shift, fn .flipColumns, x 19],
  call .compose [fn .flipRows, fn .flipColumns],
  call .fork [fn .shift, x 23, x 20],
  call .bindFirst [fn .compose, x 5],
  callResult 25 [x 21],
  callResult 25 [x 22],
  callResult 25 [x 24],
  call .compose [fn .awayFromZero, fn .negate],
  call .bindFirst [fn .compose, x 29],
  callResult 30 [x 16],
  callResult 30 [x 17],
  callResult 30 [x 15],
  call .fork [fn .shift, x 26, x 31],
  call .fork [fn .shift, x 27, x 32],
  call .fork [fn .shift, x 28, x 33],
  call .bindFirst [fn .cellAt, input],
  call .bindFirst [fn .compose, fn .locations],
  callResult 38 [x 14],
  callResult 38 [x 34],
  callResult 38 [x 35],
  callResult 38 [x 36],
  call .fork [fn .intersect, x 39, x 40],
  call .fork [fn .intersect, x 39, x 41],
  call .fork [fn .intersect, x 39, x 42],
  call .compose3 [x 37, fn .first, x 43],
  call .compose3 [x 37, fn .first, x 44],
  call .compose3 [x 37, fn .first, x 45],
  call .fork [fn .recolor, x 46, x 34],
  call .fork [fn .recolor, x 47, x 35],
  call .fork [fn .recolor, x 48, x 36],
  call .mapFlatten [x 49, x 1],
  call .mapFlatten [x 50, x 1],
  call .mapFlatten [x 51, x 1],
  call .paint [input, x 52],
  call .paint [x 55, x 53],
  call .paint [x 56, x 54]]

def taskb782dc8a : Program := [
  call .leastColor [input],
  call .objects [input, yes, no, no],
  call .locationsOf [input, x 1],
  call .first [x 3],
  call .sideNeighbors [x 4],
  call .objectOn [x 5, input],
  call .mostColor [x 6],
  call .locationsOf [input, x 7],
  call .selectColor [x 2, zero],
  call .bindLast [fn .isAdjacent, x 8],
  call .filterFlatten [x 9, x 10],
  call .locations [x 11],
  call .bindLast [fn .distance, x 3],
  call .compose3 [fn .isEven, x 13, fn .singleton],
  call .filter [x 12, x 14],
  call .without [x 12, x 15],
  call .fill [input, x 1, x 15],
  call .fill [x 17, x 7, x 16]]

def taskb8825c91 : Program := [
  call .replaceColor [input, four, zero],
  call .transpose [x 1],
  call .zipMap [fn .zip, x 1, x 2],
  call .bindFirst [fn .map, fn .maximum],
  call .map [x 4, x 3],
  call .antiTranspose [x 5],
  call .zipMap [fn .zip, x 5, x 6],
  call .map [x 4, x 7],
  call .antiTranspose [x 8]]

def taskb8cdaf2b : Program := [
  call .leastColor [input],
  call .locationsOf [input, x 1],
  call .shift [x 2, up],
  call .upperLeft [x 3],
  call .upperRight [x 3],
  call .ray [x 4, negUnity],
  call .ray [x 5, upRight],
  call .union [x 6, x 7],
  call .fillUnder [input, x 1, x 8]]

def taskb91ae062 : Program := [
  call .colorTotal [input],
  call .decrement [x 1],
  call .enlarge [input, x 2]]

def taskb94a9452 : Program := [
  call .objects [input, no, no, yes],
  call .first [x 1],
  call .cropTo [x 2, input],
  call .leastColor [x 3],
  call .mostColor [x 3],
  call .swapColors [x 3, x 4, x 5]]

def taskb9b7f026 : Program := [
  call .objects [input, yes, no, no],
  call .leastBy [x 1, fn .size],
  call .bindLast [fn .isAdjacent, x 2],
  call .erase [x 2, x 1],
  call .findFirst [x 4, x 3],
  call .colorOf [x 5],
  call .canvas [x 6, unity]]

def taskba26e723 : Program := [
  call .bindLast [fn .divide, three],
  call .bindLast [fn .multiply, three],
  call .compose [x 2, x 1],
  call .fork [fn .equal, fn .identity, x 3],
  call .compose [x 4, fn .last],
  call .locationsOf [input, four],
  call .filter [x 6, x 5],
  call .fill [input, six, x 7]]

def taskba97ae07 : Program := [
  call .objects [input, yes, no, yes],
  call .toTuple [x 1],
  call .map [fn .colorOf, x 2],
  call .mostCommon [x 3],
  call .locationsOf [input, x 4],
  call .boundingBox [x 5],
  call .fill [input, x 4, x 6]]

def taskbb43febb : Program := [
  call .objects [input, yes, no, no],
  call .selectColor [x 1, five],
  call .compose [fn .boundingBox, fn .innerRing],
  call .mapFlatten [x 3, x 2],
  call .fill [input, two, x 4]]

def taskbbc9ae5d : Program := [
  call .width [input],
  call .palette [input],
  call .halve [x 1],
  call .stretchRows [input, x 3],
  call .bindLast [fn .ray, unity],
  call .other [x 2, zero],
  call .locationsOf [x 4, x 6],
  call .mapFlatten [x 5, x 7],
  call .fill [x 4, x 6, x 8]]

def taskbc1d5164 : Program := [
  call .leastColor [input],
  call .crop [input, origin, threeByThree],
  call .crop [input, twoByZero, threeByThree],
  call .rightBy [four],
  call .crop [input, x 4, threeByThree],
  call .makePair [two, four],
  call .crop [input, x 6, threeByThree],
  call .canvas [zero, threeByThree],
  call .bindLast [fn .locationsOf, x 1],
  call .makePair [x 2, x 3],
  call .makePair [x 5, x 7],
  call .union [x 10, x 11],
  call .mapFlatten [x 9, x 12],
  call .fill [x 8, x 1, x 13]]

def taskbd4472b8 : Program := [
  call .width [input],
  call .makePair [two, x 1],
  call .crop [input, origin, x 2],
  call .topHalf [x 3],
  call .transpose [x 4],
  call .stretchColumns [x 5, x 1],
  call .replicate [x 6, two],
  call .flatten [x 7],
  call .above [x 3, x 8]]

def taskbda2d7a6 : Program := [
  call .colorClasses [input],
  call .sortBy [x 1, fn .size],
  call .map [fn .colorOf, x 2],
  call .last [x 2],
  call .erase [x 4, x 2],
  call .replicate [x 4, one],
  call .union [x 6, x 5],
  call .zipMapFlatten [fn .recolor, x 3, x 7],
  call .paint [input, x 8]]

def taskbdad9b1f : Program := [
  call .locationsOf [input, two],
  call .locationsOf [input, eight],
  call .center [x 1],
  call .center [x 2],
  call .rowThrough [x 3],
  call .columnThrough [x 4],
  call .intersect [x 5, x 6],
  call .fill [input, two, x 5],
  call .fill [x 8, eight, x 6],
  call .fill [x 9, four, x 7]]

def taskbe94b721 : Program := [
  call .objects [input, yes, no, yes],
  call .greatestBy [x 1, fn .size],
  call .cropTo [x 2, input]]

def taskbeb8660c : Program := [
  call .shape [input],
  call .objects [input, yes, no, yes],
  call .compose [fn .negate, fn .size],
  call .sortBy [x 2, x 3],
  call .map [fn .toOrigin, x 4],
  call .size [x 5],
  call .range [zero, x 6, one],
  call .map [fn .downBy, x 7],
  call .zipMapFlatten [fn .shift, x 5, x 8],
  call .canvas [zero, x 1],
  call .paint [x 10, x 9],
  call .rotateHalf [x 11]]

/-- The programs of this module by the identifiers of their tasks. -/
def shelfB : List (String × Program) := [
  ("b0c4d837", taskb0c4d837),
  ("b190f7f5", taskb190f7f5),
  ("b1948b0a", taskb1948b0a),
  ("b230c067", taskb230c067),
  ("b27ca6d3", taskb27ca6d3),
  ("b2862040", taskb2862040),
  ("b527c5c6", taskb527c5c6),
  ("b548a754", taskb548a754),
  ("b60334d2", taskb60334d2),
  ("b6afb2da", taskb6afb2da),
  ("b7249182", taskb7249182),
  ("b775ac94", taskb775ac94),
  ("b782dc8a", taskb782dc8a),
  ("b8825c91", taskb8825c91),
  ("b8cdaf2b", taskb8cdaf2b),
  ("b91ae062", taskb91ae062),
  ("b94a9452", taskb94a9452),
  ("b9b7f026", taskb9b7f026),
  ("ba26e723", taskba26e723),
  ("ba97ae07", taskba97ae07),
  ("bb43febb", taskbb43febb),
  ("bbc9ae5d", taskbbc9ae5d),
  ("bc1d5164", taskbc1d5164),
  ("bd4472b8", taskbd4472b8),
  ("bda2d7a6", taskbda2d7a6),
  ("bdad9b1f", taskbdad9b1f),
  ("be94b721", taskbe94b721),
  ("beb8660c", taskbeb8660c)]

end Task

end GridPuzzle
