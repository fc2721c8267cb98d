import GridPuzzle.Program

/-!
Programs of the tasks whose identifiers begin with the digit 0.
-/

namespace GridPuzzle

namespace Task

open Program

def task007bbfb7 : Program := [
  call .stretchColumns [input, three],
  call .stretchRows [x 1, three],
  call .beside [input, input],
  call .beside [x 3, input],
  call .above [x 4, x 4],
  call .above [x 5, x 4],
  call .agreeing [x 2, x 6, zero]]

def task00d62c1b : Program := [
  call .objects [input, yes, no, no],
  call .selectColor [x 1, zero],
  call .bindLast [fn .touchesBorder, input],
  call .compose [fn .not, x 3],
  call .filterFlatten [x 2, x 4],
  call .fill [input, four, x 5]]

def task017c7c7b : Program := [
  call .topHalf [input],
  call .bottomHalf [input],
  call .equal [x 1, x 2],
  call .crop [input, twoByZero, threeByThree],
  call .choose [x 3, x 2, x 4],
  call .above [input, x 5],
  call .replaceColor [x 6, one, two]]

def task025d127b : Program := [
  call .objects [input, yes, no, yes],
  call .map [fn .colorOf, x 1],
  call .flatten [x 1],
  call .bindFirst [fn .selectColor, x 1],
  call .bindLast [fn .greatestBy, fn .rightColumn],
  call .compose [x 5, x 4],
  call .mapFlatten [x 6, x 2],
  call .without [x 3, x 7],
  call .move [input, x 8, right]]

def task045e512c : Program := [
  call .objects [input, yes, yes, yes],
  call .greatestBy [x 1, fn .size],
  call .erase [x 2, x 1],
  call .bindFirst [fn .shift, x 2],
  call .bindFirst [fn .mapFlatten, x 4],
  call .double [ten],
  call .range [four, x 6, four],
  call .bindLast [fn .map, x 7],
  call .bindFirst [fn .direction, x 2],
  call .bindFirst [fn .bindLast, fn .multiply],
  call .compose3 [x 8, x 10, x 9],
  call .compose [x 5, x 11],
  call .fork [fn .recolor, fn .colorOf, x 12],
  call .mapFlatten [x 13, x 3],
  call .paint [input, x 14]]

def task0520fde7 : Program := [
  call .flipColumns [input],
  call .leftHalf [x 1],
  call .rightHalf [x 1],
  call .flipColumns [x 3],
  call .agreeing [x 2, x 4, zero],
  call .replaceColor [x 5, one, two]]

def task05269061 : Program := [
  call .objects [input, yes, yes, yes],
  call .neighbors [origin],
  call .mapFlatten [fn .neighbors, x 2],
  call .bindLast [fn .multiply, three],
  call .map [x 4, x 3],
  call .flatten [x 1],
  call .bindFirst [fn .shift, x 6],
  call .mapFlatten [x 7, x 5],
  call .shift [x 8, upRight],
  call .shift [x 8, downLeft],
  call .paint [input, x 8],
  call .paint [x 11, x 9],
  call .paint [x 12, x 10]]

def task05f2a901 : Program := [
  call .objects [input, yes, no, yes],
  call .selectColor [x 1, two],
  call .first [x 2],
  call .selectColor [x 1, eight],
  call .first [x 4],
  call .gravitate [x 3, x 5],
  call .move [input, x 3, x 6]]

def task06df4c85 : Program := [
  call .colorClasses [input],
  call .mostColor [input],
  call .locationsOf [input, x 2],
  call .selectColor [x 1, zero],
  call .greatestBy [x 1, fn .size],
  call .without [x 1, x 4],
  call .erase [x 5, x 6],
  call .flatten [x 7],
  call .product [x 8, x 8],
  call .iterate [fn .first, two],
  call .compose [fn .first, fn .last],
  call .fork [fn .equal, x 10, x 11],
  call .filter [x 9, x 12],
  call .compose [fn .last, fn .first],
  call .iterate [fn .last, two],
  call .fork [fn .line, x 14, x 15],
  call .fork [fn .recolor, fn .colorOf, x 16],
  call .map [x 17, x 13],
  call .fork [fn .either, fn .isVerticalLine, fn .isHorizontalLine],
  call .filterFlatten [x 18, x 19],
  call .paint [input, x 20],
  call .fill [x 21, x 2, x 3]]

def task08ed6ac7 : Program := [
  call .objects [input, yes, no, yes],
  call .toTuple [x 1],
  call .sortBy [x 1, fn .height],
  call .size [x 2],
  call .range [x 4, zero, negOne],
  call .zipMapFlatten [fn .recolor, x 5, x 3],
  call .paint [input, x 6]]

def task09629e4f : Program := [
  call .objects [input, no, yes, yes],
  call .leastBy [x 1, fn .colorTotal],
  call .toOrigin [x 2],
  call .enlarge [x 3, four],
  call .paint [input, x 4],
  call .locationsOf [input, five],
  call .fill [x 5, five, x 6]]

def task0962bcdd : Program := [
  call .leastColor [input],
  call .replaceColor [input, zero, x 1],
  call .leastColor [x 2],
  call .locationsOf [input, x 3],
  call .mapFlatten [fn .sideNeighbors, x 4],
  call .fill [input, x 3, x 5],
  call .objects [x 6, no, yes, yes],
  call .fork [fn .line, fn .upperLeft, fn .lowerRight],
  call .fork [fn .line, fn .lowerLeft, fn .upperRight],
  call .fork [fn .union, x 8, x 9],
  call .mapFlatten [x 10, x 7],
  call .fill [x 6, x 1, x 11]]

def task0a938d79 : Program := [
  call .isTall [input],
  call .choose [x 1, fn .transpose, fn .identity],
  callResult 2 [input],
  call .foregroundClasses [x 3],
  call .flatten [x 4],
  call .compose3 [fn .double, fn .decrement, fn .width],
  callResult 6 [x 5],
  call .compose [fn .columnThrough, fn .rightBy],
  call .bindFirst [fn .mapFlatten, x 8],
  call .bindLast [fn .range, x 7],
  call .width [x 3],
  call .bindLast [x 10, x 11],
  call .compose3 [x 9, x 12, fn .leftColumn],
  call .fork [fn .recolor, fn .colorOf, x 13],
  call .mapFlatten [x 14, x 4],
  call .paint [x 3, x 15],
  callResult 2 [x 16]]

def task0b148d64 : Program := [
  call .colorClasses [input],
  call .leastBy [x 1, fn .size],
  call .cropTo [x 2, input]]

def task0ca9ddb6 : Program := [
  call .locationsOf [input, one],
  call .locationsOf [input, two],
  call .mapFlatten [fn .sideNeighbors, x 1],
  call .mapFlatten [fn .cornerNeighbors, x 2],
  call .fill [input, seven, x 3],
  call .fill [x 5, four, x 4]]

def task0d3d703e : Program := [
  call .swapColors [input, three, four],
  call .swapColors [x 1, eight, nine],
  call .swapColors [x 2, two, six],
  call .swapColors [x 3, one, five]]

def task0dfd9992 : Program := [
  call .height [input],
  call .width [input],
  call .colorClasses [input],
  call .selectColor [x 3, zero],
  call .without [x 3, x 4],
  call .flatten [x 5],
  call .makePair [x 1, one],
  call .makePair [one, x 2],
  call .decrement [x 1],
  call .decrement [x 2],
  call .downBy [x 10],
  call .rightBy [x 9],
  call .crop [input, x 11, x 8],
  call .crop [input, x 12, x 7],
  call .gridObject [x 14],
  call .gridObject [x 13],
  call .rowPeriod [x 15],
  call .columnPeriod [x 16],
  call .makePair [x 17, x 18],
  call .bindFirst [fn .multiply, x 19],
  call .neighbors [origin],
  call .mapFlatten [fn .neighbors, x 21],
  call .map [x 20, x 22],
  call .bindFirst [fn .shift, x 6],
  call .mapFlatten [x 24, x 23],
  call .paint [input, x 25]]

def task0e206a2e : Program := [
  call .palette [input],
  call .objects [input, no, no, yes],
  call .bindLast [fn .greater, one],
  call .compose [x 3, fn .colorTotal],
  call .filter [x 2, x 4],
  call .erase [zero, x 1],
  call .bindFirst [fn .countColor, input],
  call .greatestBy [x 6, x 7],
  call .erase [x 8, x 6],
  call .bindLast [fn .member, x 9],
  call .compose [x 10, fn .first],
  call .bindLast [fn .filter, x 11],
  call .bindFirst [fn .bindLast, fn .subtract],
  call .bindFirst [fn .occurrences, input],
  call .bindFirst [fn .bindFirst, fn .shift],
  call .compose [x 13, fn .upperLeft],
  call .compose3 [x 16, x 12, fn .toOrigin],
  call .compose3 [x 14, x 12, fn .toOrigin],
  call .fork [fn .map, x 17, x 18],
  call .compose [x 15, fn .toOrigin],
  call .fork [fn .mapFlatten, x 20, x 19],
  call .makePair [fn .antiTranspose, fn .transpose],
  call .makePair [fn .flipRows, fn .flipColumns],
  call .union [x 22, x 23],
  call .product [x 24, x 24],
  call .fork [fn .compose, fn .first, fn .last],
  call .map [x 26, x 25],
  call .toTuple [x 27],
  call .union [x 24, x 28],
  call .bindFirst [fn .mapFunctions, x 29],
  call .mapFlatten [x 30, x 5],
  call .mapFlatten [x 21, x 31],
  call .paint [input, x 32],
  call .flatten [x 5],
  call .erasePatch [x 33, x 34]]

/-- The programs of this module by the identifiers of their tasks. -/
def shelf0 : List (String × Program) := [
  ("007bbfb7", task007bbfb7),
  ("00d62c1b", task00d62c1b),
  ("017c7c7b", task017c7c7b),
  ("025d127b", task025d127b),
  ("045e512c", task045e512c),
  ("0520fde7", task0520fde7),
  ("05269061", task05269061),
  ("05f2a901", task05f2a901),
  ("06df4c85", task06df4c85),
  ("08ed6ac7", task08ed6ac7),
  ("09629e4f", task09629e4f),
  ("0962bcdd", task0962bcdd),
  ("0a938d79", task0a938d79),
  ("0b148d64", task0b148d64),
  ("0ca9ddb6", task0ca9ddb6),
  ("0d3d703e", task0d3d703e),
  ("0dfd9992", task0dfd9992),
  ("0e206a2e", task0e206a2e)]

end Task

end GridPuzzle
