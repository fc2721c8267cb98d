import GridPuzzle.Program

/-!
Programs of the tasks whose identifiers begin with the digit f.
-/

namespace GridPuzzle

namespace Task

open Program

def taskf15e1fac : Program := [
  call .locationsOf [input, two],
  call .isTall [x 1],
  call .choose [x 2, fn .identity, fn .transpose],
  callResult 3 [input],
  call .leftColumn [x 1],
  call .equal [x 5, zero],
  call .choose [x 6, fn .identity, fn .flipColumns],
  callResult 7 [x 4],
  call .locationsOf [x 8, eight],
  call .topRow [x 9],
  call .equal [x 10, zero],
  call .choose [x 11, fn .identity, fn .flipRows],
  callResult 12 [x 8],
  call .locationsOf [x 13, eight],
  call .locationsOf [x 13, two],
  call .bindLast [fn .ray, down],
  call .mapFlatten [x 16, x 14],
  call .height [x 13],
  call .map [fn .first, x 15],
  call .insert [zero, x 19],
  call .insert [x 18, x 19],
  call .map [fn .decrement, x 21],
  call .sortBy [x 20, fn .identity],
  call .sortBy [x 22, fn .identity],
  call .size [x 15],
  call .increment [x 25],
  call .range [zero, x 26, one],
  call .map [fn .rightBy, x 27],
  call .zip [x 23, x 24],
  call .bindFirst [fn .filter, x 17],
  call .compose [fn .first, fn .last],
  call .compose3 [fn .decrement, fn .first, fn .first],
  call .fork [fn .greater, x 31, x 32],
  call .compose3 [fn .increment, fn .last, fn .first],
  call .fork [fn .greater, x 34, x 31],
  call .fork [fn .both, x 33, x 35],
  call .bindFirst [fn .bindFirst, fn .makePair],
  call .bindFirst [fn .compose, x 36],
  call .compose3 [x 30, x 38, x 37],
  call .map [x 39, x 29],
  call .zipMap [fn .shift, x 40, x 28],
  call .flatten [x 41],
  call .fill [x 13, eight, x 42],
  call .compose3 [x 3, x 7, x 12],
  callResult 44 [x 43]]

def taskf1cefba8 : Program := [
  call .palette [input],
  call .objects [input, no, no, yes],
  call .locationsOf [input, zero],
  call .first [x 2],
  call .upperLeft [x 4],
  call .cropTo [x 4, input],
  call .iterate [fn .trim, two],
  callResult 7 [x 6],
  call .allLocations [x 8],
  call .shift [x 9, twoByTwo],
  call .fill [x 6, zero, x 10],
  call .leastColor [x 11],
  call .erase [zero, x 1],
  call .other [x 13, x 12],
  call .locationsOf [x 11, x 12],
  call .shift [x 15, x 5],
  call .locationsOf [input, x 12],
  call .topRow [x 17],
  call .bottomRow [x 17],
  call .hasResult [fn .first, x 18],
  call .hasResult [fn .first, x 19],
  call .fork [fn .either, x 20, x 21],
  call .filter [x 16, x 22],
  call .without [x 16, x 23],
  call .mapFlatten [fn .columnThrough, x 23],
  call .mapFlatten [fn .rowThrough, x 24],
  call .union [x 25, x 26],
  call .intersect [x 3, x 27],
  call .fill [input, x 14, x 27],
  call .fill [x 29, x 12, x 28]]

def taskf25fbde4 : Program := [
  call .objects [input, yes, yes, yes],
  call .first [x 1],
  call .cropTo [x 2, input],
  call .enlarge [x 3, two]]

def taskf25ffba3 : Program := [
  call .bottomHalf [input],
  call .flipRows [x 1],
  call .above [x 2, x 1]]

def taskf2829549 : Program := [
  call .leftHalf [input],
  call .rightHalf [input],
  call .locationsOf [x 1, zero],
  call .locationsOf [x 2, zero],
  call .intersect [x 3, x 4],
  call .shape [x 1],
  call .canvas [zero, x 6],
  call .fill [x 7, three, x 5]]

def taskf35d900a : Program := [
  call .objects [input, yes, no, yes],
  call .palette [input],
  call .erase [zero, x 2],
  call .bindFirst [fn .other, x 3],
  call .compose [x 4, fn .colorOf],
  call .fork [fn .recolor, x 5, fn .outerRing],
  call .mapFlatten [x 6, x 1],
  call .mapFlatten [fn .locations, x 1],
  call .ring [x 8],
  call .without [x 9, x 8],
  call .bindFirst [fn .leastBy, x 8],
  call .bindLast [fn .compose, fn .singleton],
  call .bindFirst [fn .bindLast, fn .distance],
  call .compose3 [x 12, x 13, fn .singleton],
  call .compose3 [fn .singleton, x 11, x 14],
  call .fork [fn .distance, fn .singleton, x 15],
  call .compose [fn .isEven, x 16],
  call .filter [x 10, x 17],
  call .paint [input, x 7],
  call .fill [x 19, five, x 18]]

def taskf5b8619d : Program := [
  call .leastColor [input],
  call .locationsOf [input, x 1],
  call .mapFlatten [fn .columnThrough, x 2],
  call .fillUnder [input, eight, x 3],
  call .beside [x 4, x 4],
  call .above [x 5, x 5]]

def taskf76d97a5 : Program := [
  call .palette [input],
  call .first [x 1],
  call .last [x 1],
  call .swapColors [input, x 2, x 3],
  call .replaceColor [x 4, five, zero]]

def taskf8a8fe49 : Program := [
  call .objects [input, yes, no, yes],
  call .replaceColor [input, five, zero],
  call .selectColor [x 1, two],
  call .first [x 3],
  call .isTall [x 4],
  call .choose [x 5, fn .splitColumns, fn .splitRows],
  call .choose [x 5, fn .flipColumns, fn .flipRows],
  call .locationsOf [input, two],
  call .cropTo [x 8, input],
  call .trim [x 9],
  callResult 7 [x 10],
  callResult 6 [x 11, two],
  call .compose [fn .toOrigin, fn .gridObject],
  call .map [x 13, x 12],
  call .last [x 14],
  call .first [x 14],
  call .upperLeft [x 8],
  call .increment [x 17],
  call .shift [x 15, x 18],
  call .shift [x 16, x 18],
  call .choose [x 5, fn .width, fn .height],
  call .choose [x 5, fn .rightBy, fn .downBy],
  callResult 21 [x 15],
  call .double [x 23],
  call .compose [x 22, fn .increment],
  callResult 25 [x 23],
  call .negate [x 26],
  callResult 25 [x 24],
  call .shift [x 19, x 27],
  call .shift [x 20, x 28],
  call .paint [x 2, x 29],
  call .paint [x 31, x 30]]

def taskf8b3ba0a : Program := [
  call .dropUniformLines [input],
  call .makePair [three, one],
  call .palette [x 1],
  call .bindFirst [fn .countColor, x 1],
  call .compose [fn .negate, x 4],
  call .sortBy [x 3, x 5],
  call .bindLast [fn .canvas, unity],
  call .map [x 7, x 6],
  call .flatten [x 8],
  call .crop [x 9, down, x 2]]

def taskf8c80d96 : Program := [
  call .leastColor [input],
  call .objects [input, yes, no, no],
  call .selectColor [x 2, x 1],
  call .greatestBy [x 3, fn .size],
  call .leastBy [x 2, fn .width],
  call .size [x 5],
  call .equal [x 6, one],
  call .choose [x 7, fn .identity, fn .outerRing],
  call .compose3 [fn .outerRing, fn .outerRing, x 8],
  call .iterate [x 9, two],
  call .iterate [x 9, three],
  callResult 9 [x 4],
  callResult 10 [x 4],
  callResult 11 [x 4],
  call .fill [input, x 1, x 12],
  call .fill [x 15, x 1, x 13],
  call .fill [x 16, x 1, x 14],
  call .replaceColor [x 17, zero, five]]

def taskf8ff0b80 : Program := [
  call .objects [input, yes, yes, yes],
  call .sortBy [x 1, fn .size],
  call .map [fn .colorOf, x 2],
  call .bindLast [fn .canvas, unity],
  call .map [x 4, x 3],
  call .flatten [x 5],
  call .flipRows [x 6]]

def taskf9012d9b : Program := [
  call .objects [input, yes, no, no],
  call .locationsOf [input, zero],
  call .bindFirst [fn .member, zero],
  call .compose3 [fn .not, x 3, fn .palette],
  call .filterFlatten [x 1, x 4],
  call .splitRows [input, two],
  call .splitColumns [input, two],
  call .findFirst [x 6, x 4],
  call .findFirst [x 7, x 4],
  call .gridObject [x 8],
  call .gridObject [x 9],
  call .rowPeriod [x 10],
  call .columnPeriod [x 11],
  call .neighbors [origin],
  call .mapFlatten [fn .neighbors, x 14],
  call .makePair [x 12, x 13],
  call .bindLast [fn .multiply, x 16],
  call .map [x 17, x 15],
  call .bindFirst [fn .shift, x 5],
  call .mapFlatten [x 19, x 18],
  call .paint [input, x 20],
  call .cropTo [x 2, x 21]]

def taskfafffa47 : Program := [
  call .topHalf [input],
  call .bottomHalf [input],
  call .shape [x 2],
  call .locationsOf [x 1, zero],
  call .locationsOf [x 2, zero],
  call .intersect [x 4, x 5],
  call .canvas [zero, x 3],
  call .fill [x 7, two, x 6]]

def taskfcb5c309 : Program := [
  call .leastColor [input],
  call .objects [input, yes, no, yes],
  call .selectColor [x 2, x 1],
  call .without [x 2, x 3],
  call .greatestBy [x 4, fn .size],
  call .colorOf [x 5],
  call .cropTo [x 5, input],
  call .replaceColor [x 7, x 6, x 1]]

def taskfcc82909 : Program := [
  call .objects [input, no, yes, yes],
  call .bindLast [fn .add, down],
  call .compose [x 2, fn .lowerLeft],
  call .compose [fn .downBy, fn .colorTotal],
  call .fork [fn .add, fn .lowerRight, x 4],
  call .fork [fn .makePair, x 3, x 5],
  call .compose [fn .ring, x 6],
  call .mapFlatten [x 7, x 1],
  call .fill [input, three, x 8]]

def taskfeca6190 : Program := [
  call .objects [input, yes, no, yes],
  call .size [x 1],
  call .multiply [x 2, five],
  call .makePair [x 3, x 3],
  call .canvas [zero, x 4],
  call .bindLast [fn .ray, unity],
  call .compose [x 6, fn .center],
  call .fork [fn .recolor, fn .colorOf, x 7],
  call .mapFlatten [x 8, x 1],
  call .paint [x 5, x 9],
  call .flipRows [x 10]]

def taskff28f65a : Program := [
  call .objects [input, yes, no, yes],
  call .size [x 1],
  call .double [x 2],
  call .range [zero, x 3, two],
  call .map [fn .rightBy, x 4],
  call .makePair [one, nine],
  call .canvas [zero, x 6],
  call .fill [x 7, one, x 5],
  call .splitColumns [x 8, three],
  call .flatten [x 9]]

def taskff805c23 : Program := [
  call .flipRows [input],
  call .flipColumns [input],
  call .locationsOf [input, one],
  call .cropTo [x 3, x 1],
  call .cropTo [x 3, x 2],
  call .palette [x 4],
  call .member [one, x 6],
  call .choose [x 7, x 5, x 4]]

/-- The programs of this module by the identifiers of their tasks. -/
def shelfF : List (String × Program) := [
  ("f15e1fac", taskf15e1fac),
  ("f1cefba8", taskf1cefba8),
  ("f25fbde4", taskf25fbde4),
  ("f25ffba3", taskf25ffba3),
  ("f2829549", taskf2829549),
  ("f35d900a", taskf35d900a),
  ("f5b8619d", taskf5b8619d),
  ("f76d97a5", taskf76d97a5),
  ("f8a8fe49", taskf8a8fe49),
  ("f8b3ba0a", taskf8b3ba0a),
  ("f8c80d96", taskf8c80d96),
  ("f8ff0b80", taskf8ff0b80),
  ("f9012d9b", taskf9012d9b),
  ("fafffa47", taskfafffa47),
  ("fcb5c309", taskfcb5c309),
  ("fcc82909", taskfcc82909),
  ("feca6190", taskfeca6190),
  ("ff28f65a", taskff28f65a),
  ("ff805c23", taskff805c23)]

end Task

end GridPuzzle
