import GridPuzzle.Program

/-!
Programs of the tasks whose identifiers begin with the digit a.
-/

namespace GridPuzzle

namespace Task

open Program

def taska1570a43 : Program := [
  call .locationsOf [input, two],
  call .locationsOf [input, three],
  call .recolor [two, x 1],
  call .upperLeft [x 2],
  call .upperLeft [x 1],
  call .subtract [x 4, x 5],
  call .increment [x 6],
  call .move [input, x 3, x 7]]

def taska2fd1cf0 : Program := [
  call .locationsOf [input, two],
  call .locationsOf [input, three],
  call .topRow [x 1],
  call .leftColumn [x 1],
  call .topRow [x 2],
  call .leftColumn [x 2],
  call .makePair [x 3, x 5],
  call .minimum [x 7],
  call .maximum [x 7],
  call .makePair [x 8, x 6],
  call .makePair [x 9, x 6],
  call .line [x 10, x 11],
  call .makePair [x 4, x 6],
  call .minimum [x 13],
  call .maximum [x 13],
  call .makePair [x 3, x 14],
  call .makePair [x 3, x 15],
  call .line [x 16, x 17],
  call .union [x 12, x 18],
  call .fillUnder [input, eight, x 19]]

def taska3325580 : Program := [
  call .objects [input, yes, no, yes],
  call .greatestKey [x 1, fn .size],
  call .selectSize [x 1, x 2],
  call .sortBy [x 3, fn .leftColumn],
  call .map [fn .colorOf, x 4],
  call .makePair [one, x 2],
  call .bindLast [fn .canvas, x 6],
  call .map [x 7, x 5],
  call .flatten [x 8],
  call .transpose [x 9]]

def taska3df8b1e : Program := [
  call .shape [input],
  call .locationsOf [input, one],
  call .first [x 2],
  call .ray [x 3, upRight],
  call .fill [input, one, x 4],
  call .locationsOf [x 5, one],
  call .upperRight [x 6],
  call .ray [x 7, negUnity],
  call .fill [x 5, one, x 8],
  call .objects [x 9, yes, yes, yes],
  call .first [x 10],
  call .cropTo [x 11, x 9],
  call .shape [x 12],
  call .subtract [x 13, down],
  call .crop [x 12, down, x 14],
  call .above [x 15, x 15],
  call .above [x 16, x 16],
  call .above [x 17, x 17],
  call .flipRows [x 18],
  call .crop [x 19, origin, x 1],
  call .flipRows [x 20]]

def taska416b8f3 : Program := [
  call .beside [input, input]]

def taska48eeaf7 : Program := [
  call .locationsOf [input, two],
  call .outerRing [x 1],
  call .map [fn .singleton, x 2],
  call .locationsOf [input, five],
  call .bindFirst [fn .leastBy, x 3],
  call .bindFirst [fn .bindFirst, fn .distance],
  call .compose [x 6, fn .singleton],
  call .compose [x 5, x 7],
  call .mapFlatten [x 8, x 4],
  call .erasePatch [input, x 4],
  call .fill [x 10, five, x 9]]

def taska5313dff : Program := [
  call .objects [input, yes, no, no],
  call .selectColor [x 1, zero],
  call .bindLast [fn .touchesBorder, input],
  call .compose [fn .not, x 3],
  call .filterFlatten [x 2, x 4],
  call .fill [input, one, x 5]]

def taska5f85a15 : Program := [
  call .objects [input, yes, yes, yes],
  call .range [one, nine, one],
  call .map [fn .double, x 2],
  call .map [fn .decrement, x 3],
  call .zipMap [fn .makePair, x 4, x 4],
  call .map [fn .upperLeft, x 1],
  call .bindFirst [fn .shift, x 5],
  call .mapFlatten [x 7, x 6],
  call .fill [input, four, x 8]]

def taska61ba2ce : Program := [
  call .objects [input, yes, no, yes],
  call .bindFirst [fn .cellAt, input],
  call .hasResult [x 2, zero],
  call .bindFirst [fn .findFirst, x 1],
  call .bindLast [fn .cropTo, input],
  call .bindFirst [fn .compose, x 3],
  call .compose3 [x 5, x 4, x 6],
  callResult 7 [fn .upperLeft],
  callResult 7 [fn .upperRight],
  callResult 7 [fn .lowerLeft],
  callResult 7 [fn .lowerRight],
  call .beside [x 11, x 10],
  call .beside [x 9, x 8],
  call .above [x 12, x 13]]

def taska61f2674 : Program := [
  call .objects [input, yes, no, yes],
  call .greatestBy [x 1, fn .size],
  call .leastBy [x 1, fn .size],
  call .replaceColor [input, five, zero],
  call .recolor [one, x 2],
  call .recolor [two, x 3],
  call .union [x 5, x 6],
  call .paint [x 4, x 7]]

def taska64e4611 : Program := [
  call .allLocations [input],
  call .fork [fn .product, fn .identity, fn .identity],
  call .bindFirst [fn .canvas, zero],
  call .compose [fn .gridObject, x 3],
  call .fork [fn .multiply, fn .first, fn .last],
  call .compose [fn .isPositive, fn .size],
  call .bindFirst [fn .bindFirst, fn .shift],
  call .bindLast [fn .fork, x 5],
  call .bindFirst [x 8, fn .multiply],
  call .bindFirst [fn .compose3, x 6],
  call .bindLast [x 10, x 4],
  call .bindFirst [fn .bindFirst, fn .occurrences],
  call .compose3 [x 9, x 11, x 12],
  call .compose [x 2, fn .first],
  call .compose [x 13, fn .last],
  call .fork [fn .greatestBy, x 14, x 15],
  call .compose3 [x 7, x 4, x 16],
  call .compose [x 4, x 16],
  call .fork [fn .occurrences, fn .last, x 18],
  call .fork [fn .mapFlatten, x 17, x 19],
  call .multiply [two, six],
  call .range [three, x 21, one],
  call .makePair [x 22, input],
  callResult 20 [x 23],
  call .fill [input, three, x 24],
  call .range [three, ten, one],
  call .makePair [x 26, x 25],
  callResult 20 [x 27],
  call .fill [x 25, three, x 28],
  call .makePair [x 26, x 29],
  callResult 20 [x 30],
  call .fill [x 29, three, x 31],
  call .bindLast [fn .objectOn, x 32],
  call .bindLast [fn .countColor, three],
  call .compose3 [x 34, x 33, fn .neighbors],
  call .hasResult [x 35, eight],
  call .filter [x 1, x 36],
  call .fill [input, three, x 37],
  call .locationsOf [x 38, zero],
  call .bindLast [fn .touchesBorder, x 38],
  call .compose [x 40, fn .singleton],
  call .bindFirst [fn .member, three],
  call .bindLast [fn .objectOn, x 38],
  call .compose3 [x 42, fn .palette, x 43],
  call .compose [x 44, fn .sideNeighbors],
  call .fork [fn .both, x 45, x 41],
  call .filter [x 39, x 46],
  call .fill [x 38, three, x 47]]

def taska65b410d : Program := [
  call .locationsOf [input, two],
  call .upperRight [x 1],
  call .ray [x 2, upRight],
  call .ray [x 2, downLeft],
  call .fillUnder [input, three, x 3],
  call .fillUnder [x 5, one, x 4],
  call .bindLast [fn .ray, left],
  call .mapFlatten [x 7, x 3],
  call .mapFlatten [x 7, x 4],
  call .fillUnder [x 6, one, x 9],
  call .fillUnder [x 10, three, x 8]]

def taska68b268e : Program := [
  call .topHalf [input],
  call .bottomHalf [input],
  call .leftHalf [x 1],
  call .rightHalf [x 1],
  call .leftHalf [x 2],
  call .rightHalf [x 2],
  call .locationsOf [x 4, four],
  call .locationsOf [x 3, seven],
  call .locationsOf [x 5, eight],
  call .fill [x 6, eight, x 9],
  call .fill [x 10, four, x 7],
  call .fill [x 11, seven, x 8]]

def taska699fb00 : Program := [
  call .locationsOf [input, one],
  call .shift [x 1, right],
  call .shift [x 1, left],
  call .intersect [x 2, x 3],
  call .fill [input, two, x 4]]

def taska740d043 : Program := [
  call .objects [input, yes, yes, yes],
  call .flatten [x 1],
  call .cropTo [x 2, input],
  call .replaceColor [x 3, one, zero]]

def taska78176bb : Program := [
  call .palette [input],
  call .objects [input, yes, no, yes],
  call .erase [zero, x 1],
  call .other [x 3, five],
  call .selectColor [x 2, five],
  call .bindFirst [fn .cellAt, input],
  call .compose [x 6, fn .upperRight],
  call .hasResult [x 7, five],
  call .filter [x 5, x 8],
  call .without [x 5, x 9],
  call .map [fn .upperRight, x 9],
  call .map [fn .lowerLeft, x 10],
  call .bindLast [fn .add, upRight],
  call .bindLast [fn .add, downLeft],
  call .map [x 13, x 11],
  call .map [x 14, x 12],
  call .bindLast [fn .ray, unity],
  call .bindLast [fn .ray, negUnity],
  call .fork [fn .union, x 17, x 18],
  call .mapFlatten [x 19, x 15],
  call .mapFlatten [x 19, x 16],
  call .union [x 20, x 21],
  call .fill [input, x 4, x 22],
  call .replaceColor [x 23, five, zero]]

def taska79310a0 : Program := [
  call .objects [input, yes, no, yes],
  call .first [x 1],
  call .move [input, x 2, down],
  call .replaceColor [x 3, eight, two]]

def taska85d4709 : Program := [
  call .locationsOf [input, five],
  call .bindFirst [fn .hasResult, fn .last],
  call .bindFirst [fn .filter, x 1],
  call .bindFirst [fn .mapFlatten, fn .rowThrough],
  call .compose3 [x 4, x 3, x 2],
  callResult 5 [zero],
  callResult 5 [two],
  callResult 5 [one],
  call .fill [input, two, x 6],
  call .fill [x 9, three, x 7],
  call .fill [x 10, four, x 8]]

def taska87f7484 : Program := [
  call .colorTotal [input],
  call .isTall [input],
  call .choose [x 2, fn .transpose, fn .identity],
  callResult 3 [input],
  call .decrement [x 1],
  call .splitColumns [x 4, x 5],
  call .bindLast [fn .locationsOf, zero],
  call .map [x 7, x 6],
  call .leastCommon [x 8],
  call .hasResult [x 7, x 9],
  call .findFirst [x 6, x 10],
  callResult 3 [x 11]]

def taska8c38be5 : Program := [
  call .replaceColor [input, five, zero],
  call .objects [x 1, yes, no, yes],
  call .map [fn .toOrigin, x 2],
  call .makePair [nine, nine],
  call .canvas [five, x 4],
  call .allLocations [x 5],
  call .ring [x 6],
  call .center [x 6],
  call .bindFirst [fn .member, zero],
  call .bindLast [fn .subtract, x 8],
  call .compose [x 9, x 10],
  call .compose3 [fn .outerRing, fn .outerRing, fn .singleton],
  call .corners [x 6],
  call .mapFlatten [x 12, x 13],
  call .without [x 7, x 14],
  call .innerRing [x 7],
  call .filter [x 16, x 11],
  call .union [x 15, x 17],
  call .fill [x 5, one, x 18],
  call .objects [x 19, yes, no, yes],
  call .map [fn .locations, x 20],
  call .bindFirst [fn .hasResult, fn .toOrigin],
  call .bindFirst [fn .findFirst, x 21],
  call .compose3 [fn .upperLeft, x 23, x 22],
  call .compose [x 24, fn .locations],
  call .fork [fn .shift, fn .identity, x 25],
  call .mapFlatten [x 26, x 3],
  call .paint [x 5, x 27]]

def taska8d7556c : Program := [
  call .singleton [origin],
  call .recolor [zero, x 1],
  call .enlarge [x 2, two],
  call .occurrences [input, x 3],
  call .bindFirst [fn .shift, x 3],
  call .mapFlatten [x 5, x 4],
  call .fill [input, two, x 6],
  call .add [six, six],
  call .makePair [eight, x 8],
  call .cellAt [x 7, x 9],
  call .equal [x 10, two],
  call .singleton [x 9],
  call .add [x 9, down],
  call .insert [x 13, x 12],
  call .objectOn [x 14, x 7],
  call .objectOn [x 14, input],
  call .choose [x 11, x 16, x 15],
  call .paint [x 7, x 17]]

def taska9f96cdd : Program := [
  call .locationsOf [input, two],
  call .replaceColor [input, two, zero],
  call .shift [x 1, negUnity],
  call .fill [x 2, three, x 3],
  call .shift [x 1, upRight],
  call .fill [x 4, six, x 5],
  call .shift [x 1, downLeft],
  call .fill [x 6, eight, x 7],
  call .shift [x 1, unity],
  call .fill [x 8, seven, x 9]]

def taskaabf363d : Program := [
  call .leastColor [input],
  call .replaceColor [input, x 1, zero],
  call .leastColor [x 2],
  call .replaceColor [x 2, x 3, x 1]]

def taskaba27056 : Program := [
  call .objects [input, yes, no, yes],
  call .mapFlatten [fn .locations, x 1],
  call .ring [x 2],
  call .without [x 3, x 2],
  call .boxRest [x 2],
  call .direction [x 5, x 4],
  call .range [zero, nine, one],
  call .bindFirst [fn .multiply, x 6],
  call .map [x 8, x 7],
  call .bindFirst [fn .shift, x 4],
  call .mapFlatten [x 10, x 9],
  call .fill [input, four, x 5],
  call .fill [x 12, four, x 11],
  call .corners [x 4],
  call .locationsOf [x 13, zero],
  call .bindLast [fn .objectOn, x 13],
  call .bindLast [fn .countColor, zero],
  call .compose3 [x 17, x 16, fn .sideNeighbors],
  call .hasResult [x 18, two],
  call .bindLast [fn .isAdjacent, x 2],
  call .bindLast [fn .isAdjacent, x 11],
  call .fork [fn .both, x 20, x 21],
  call .compose [x 22, fn .singleton],
  call .filter [x 15, x 19],
  call .filter [x 24, x 23],
  call .product [x 14, x 25],
  call .fork [fn .subtract, fn .last, fn .first],
  call .fork [fn .ray, fn .first, x 27],
  call .mapFlatten [x 28, x 26],
  call .fill [x 13, four, x 29]]

def taskac0a08a4 : Program := [
  call .countColor [input, zero],
  call .subtract [nine, x 1],
  call .enlarge [input, x 2]]

def taskae3edfdc : Program := [
  call .objects [input, yes, no, yes],
  call .replaceColor [input, three, zero],
  call .replaceColor [x 2, seven, zero],
  call .bindFirst [fn .selectColor, x 1],
  call .bindFirst [fn .bindLast, fn .gravitate],
  call .compose3 [x 5, fn .first, x 4],
  callResult 6 [two],
  callResult 6 [one],
  callResult 4 [three],
  callResult 4 [seven],
  call .fork [fn .shift, fn .identity, x 7],
  call .fork [fn .shift, fn .identity, x 8],
  call .mapFlatten [x 11, x 9],
  call .mapFlatten [x 12, x 10],
  call .paint [x 3, x 13],
  call .paint [x 15, x 14]]

def taskae4f1146 : Program := [
  call .objects [input, no, no, yes],
  call .bindLast [fn .countColor, one],
  call .greatestBy [x 1, x 2],
  call .cropTo [x 3, input]]

def taskaedd82e4 : Program := [
  call .objects [input, yes, no, no],
  call .selectColor [x 1, two],
  call .selectSize [x 2, one],
  call .flatten [x 3],
  call .fill [input, one, x 4]]

def taskaf902bf9 : Program := [
  call .locationsOf [input, four],
  call .productMap [fn .line, x 1, x 1],
  call .fork [fn .either, fn .isVerticalLine, fn .isHorizontalLine],
  call .filterFlatten [x 2, x 3],
  call .fillUnder [input, negOne, x 4],
  call .objects [x 5, no, no, yes],
  call .compose [fn .boundingBox, fn .innerRing],
  call .mapFlatten [x 7, x 6],
  call .fill [x 5, two, x 8],
  call .replaceColor [x 9, negOne, zero]]

/-- The programs of this module by the identifiers of their tasks. -/
def shelfA : List (String × Program) := [
  ("a1570a43", taska1570a43),
  ("a2fd1cf0", taska2fd1cf0),
  ("a3325580", taska3325580),
  ("a3df8b1e", taska3df8b1e),
  ("a416b8f3", taska416b8f3),
  ("a48eeaf7", taska48eeaf7),
  ("a5313dff", taska5313dff),
  ("a5f85a15", taska5f85a15),
  ("a61ba2ce", taska61ba2ce),
  ("a61f2674", taska61f2674),
  ("a64e4611", taska64e4611),
  ("a65b410d", taska65b410d),
  ("a68b268e", taska68b268e),
  ("a699fb00", taska699fb00),
  ("a740d043", taska740d043),
  ("a78176bb", taska78176bb),
  ("a79310a0", taska79310a0),
  ("a85d4709", taska85d4709),
  ("a87f7484", taska87f7484),
  ("a8c38be5", taska8c38be5),
  ("a8d7556c", taska8d7556c),
  ("a9f96cdd", taska9f96cdd),
  ("aabf363d", taskaabf363d),
  ("aba27056", taskaba27056),
  ("ac0a08a4", taskac0a08a4),
  ("ae3edfdc", taskae3edfdc),
  ("ae4f1146", taskae4f1146),
  ("aedd82e4", taskaedd82e4),
  ("af902bf9", taskaf902bf9)]

end Task

end GridPuzzle
