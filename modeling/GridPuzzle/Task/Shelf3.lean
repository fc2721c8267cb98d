import GridPuzzle.Program

/-!
Programs of the tasks whose identifiers begin with the digit 3.
-/

namespace GridPuzzle

namespace Task

open Program

def task31aa019c : Program := [
  call .leastColor [input],
  call .locationsOf [input, x 1],
  call .first [x 2],
  call .neighbors [x 3],
  call .makePair [ten, ten],
  call .canvas [zero, x 5],
  call .singleton [x 3],
  call .fill [x 6, x 1, x 7],
  call .fill [x 8, two, x 4]]

def task321b1fc6 : Program := [
  call .objects [input, no, no, yes],
  call .selectColor [x 1, eight],
  call .without [x 1, x 2],
  call .first [x 3],
  call .erasePatch [input, x 4],
  call .toOrigin [x 4],
  call .bindFirst [fn .shift, x 6],
  call .map [fn .upperLeft, x 2],
  call .mapFlatten [x 7, x 8],
  call .paint [x 5, x 9]]

def task32597951 : Program := [
  call .locationsOf [input, eight],
  call .boxRest [x 1],
  call .fill [input, three, x 2]]

def task3345333e : Program := [
  call .leastColor [input],
  call .locationsOf [input, x 1],
  call .erasePatch [input, x 2],
  call .leastColor [x 3],
  call .locationsOf [x 3, x 4],
  call .neighbors [origin],
  call .mapFlatten [fn .neighbors, x 6],
  call .flipColumns [x 5],
  call .bindFirst [fn .shift, x 8],
  call .map [x 9, x 7],
  call .bindLast [fn .intersect, x 5],
  call .compose [fn .size, x 11],
  call .greatestBy [x 10, x 12],
  call .fill [x 3, x 4, x 13]]

def task3428a4f5 : Program := [
  call .topHalf [input],
  call .bottomHalf [input],
  call .makePair [six, five],
  call .locationsOf [x 1, two],
  call .locationsOf [x 2, two],
  call .union [x 4, x 5],
  call .intersect [x 4, x 5],
  call .without [x 6, x 7],
  call .canvas [zero, x 3],
  call .fill [x 9, three, x 8]]

def task3618c87e : Program := [
  call .objects [input, yes, no, yes],
  call .selectSize [x 1, one],
  call .flatten [x 2],
  call .move [input, x 3, twoByZero]]

def task3631a71a : Program := [
  call .shape [input],
  call .replaceColor [input, nine, zero],
  call .bindFirst [fn .map, fn .maximum],
  call .transpose [x 2],
  call .zipMap [fn .zip, x 2, x 4],
  call .map [x 3, x 5],
  call .subtract [x 1, twoByTwo],
  call .crop [x 6, twoByTwo, x 7],
  call .flipColumns [x 8],
  call .objects [x 9, yes, no, yes],
  call .flatten [x 10],
  call .shift [x 11, twoByTwo],
  call .paint [x 6, x 12]]

def task363442ee : Program := [
  call .locationsOf [input, one],
  call .crop [input, origin, threeByThree],
  call .gridObject [x 2],
  call .bindFirst [fn .shift, x 3],
  call .compose [x 4, fn .decrement],
  call .mapFlatten [x 5, x 1],
  call .paint [input, x 6]]

def task36d67576 : Program := [
  call .objects [input, no, no, yes],
  call .greatestBy [x 1, fn .colorTotal],
  call .makePair [two, four],
  call .bindLast [fn .member, x 3],
  call .compose [x 4, fn .first],
  call .bindLast [fn .filter, x 5],
  call .bindFirst [fn .bindLast, fn .subtract],
  call .bindFirst [fn .occurrences, input],
  call .bindFirst [fn .bindFirst, fn .shift],
  call .compose [x 7, fn .upperLeft],
  call .compose3 [x 10, x 6, fn .toOrigin],
  call .compose3 [x 8, x 6, fn .toOrigin],
  call .fork [fn .map, x 11, x 12],
  call .compose [x 9, fn .toOrigin],
  call .fork [fn .mapFlatten, x 14, x 13],
  call .makePair [fn .antiTranspose, fn .transpose],
  call .makePair [fn .flipRows, fn .flipColumns],
  call .union [x 16, x 17],
  call .product [x 18, x 18],
  call .fork [fn .compose, fn .first, fn .last],
  call .map [x 20, x 19],
  call .toTuple [x 21],
  call .union [x 18, x 22],
  call .mapFunctions [x 23, x 2],
  call .mapFlatten [x 15, x 24],
  call .paint [input, x 25]]

def task36fdfd69 : Program := [
  call .enlarge [input, two],
  call .objects [x 1, yes, yes, yes],
  call .selectColor [x 2, two],
  call .fork [fn .distance, fn .first, fn .last],
  call .bindFirst [fn .greater, five],
  call .compose [x 5, x 4],
  call .product [x 3, x 3],
  call .filter [x 7, x 6],
  call .map [fn .flatten, x 8],
  call .mapFlatten [fn .boxRest, x 9],
  call .fill [x 1, four, x 10],
  call .flatten [x 3],
  call .paint [x 11, x 12],
  call .shrink [x 13, two]]

def task3906de3d : Program := [
  call .rotateLeft [input],
  call .bindLast [fn .sortBy, fn .identity],
  call .swapColors [x 1, one, two],
  call .map [x 2, x 3],
  call .swapColors [x 4, one, two],
  call .antiTranspose [x 5]]

def task39a8645d : Program := [
  call .objects [input, yes, yes, yes],
  call .toTuple [x 1],
  call .map [fn .colorOf, x 2],
  call .mostCommon [x 3],
  call .hasResult [fn .colorOf, x 4],
  call .findFirst [x 1, x 5],
  call .cropTo [x 6, input]]

def task39e1d7f9 : Program := [
  call .foregroundClasses [input],
  call .objects [input, yes, no, yes],
  call .sortBy [x 1, fn .height],
  call .last [x 3],
  call .erase [x 4, x 3],
  call .last [x 5],
  call .colorOf [x 6],
  call .selectColor [x 2, x 7],
  call .bindFirst [fn .erase, zero],
  call .compose3 [fn .size, x 9, fn .palette],
  call .iterate [fn .outerRing, two],
  call .bindLast [fn .objectOn, input],
  call .compose3 [x 10, x 12, x 11],
  call .greatestBy [x 8, x 13],
  call .upperLeft [x 14],
  call .shape [x 14],
  call .subtract [x 15, x 16],
  call .decrement [x 17],
  call .multiply [x 16, three],
  call .add [x 19, twoByTwo],
  call .crop [input, x 18, x 20],
  call .gridObject [x 21],
  call .map [fn .upperLeft, x 8],
  call .increment [x 16],
  call .bindLast [fn .subtract, x 24],
  call .map [x 25, x 23],
  call .bindFirst [fn .shift, x 22],
  call .mapFlatten [x 27, x 26],
  call .paint [input, x 28]]

def task3aa6fb7a : Program := [
  call .objects [input, yes, no, yes],
  call .mapFlatten [fn .corners, x 1],
  call .fillUnder [input, one, x 2]]

def task3ac3eb23 : Program := [
  call .objects [input, yes, no, yes],
  call .compose3 [fn .cornerNeighbors, fn .last, fn .first],
  call .fork [fn .recolor, fn .colorOf, x 2],
  call .mapFlatten [x 3, x 1],
  call .paint [input, x 4],
  call .splitRows [x 5, three],
  call .first [x 6],
  call .above [x 7, x 7],
  call .above [x 7, x 8]]

def task3af2c5a8 : Program := [
  call .flipColumns [input],
  call .beside [input, x 1],
  call .flipRows [x 2],
  call .above [x 2, x 3]]

def task3bd67248 : Program := [
  call .height [input],
  call .decrement [x 1],
  call .decrement [x 2],
  call .makePair [x 3, one],
  call .makePair [x 2, one],
  call .ray [x 4, upRight],
  call .ray [x 5, right],
  call .fill [input, two, x 6],
  call .fill [x 8, four, x 7]]

def task3bdb4ada : Program := [
  call .objects [input, yes, no, yes],
  call .toTuple [x 1],
  call .compose [fn .increment, fn .upperLeft],
  call .compose [fn .decrement, fn .lowerRight],
  call .map [x 3, x 2],
  call .map [x 4, x 2],
  call .zipMap [fn .line, x 5, x 6],
  call .map [fn .last, x 5],
  call .compose [fn .last, fn .first],
  call .iterate [fn .last, two],
  call .fork [fn .subtract, x 9, x 10],
  call .compose [fn .isEven, x 11],
  call .bindFirst [fn .bindLast, fn .makePair],
  call .bindFirst [fn .compose, x 12],
  call .compose [x 14, x 13],
  call .fork [fn .filter, fn .first, x 15],
  call .zip [x 7, x 8],
  call .mapFlatten [x 16, x 17],
  call .fill [input, zero, x 18]]

def task3befdf3e : Program := [
  call .objects [input, no, no, yes],
  call .leastColor [input],
  call .palette [input],
  call .erase [zero, x 3],
  call .other [x 4, x 2],
  call .swapColors [input, x 2, x 5],
  call .compose [fn .width, fn .innerRing],
  call .bindFirst [fn .iterate, fn .outerRing],
  call .compose [x 8, x 7],
  call .singleton [x 9],
  call .bindFirst [fn .mapFunctions, x 10],
  call .compose3 [fn .singleton, fn .first, x 11],
  call .fork [fn .mapFunctions, x 12, fn .identity],
  call .compose [fn .first, x 13],
  call .compose [fn .boundingBox, x 14],
  call .bindFirst [fn .compose3, fn .boundingBox],
  call .bindFirst [x 16, fn .innerRing],
  call .compose [x 17, x 9],
  call .bindFirst [fn .map, fn .singleton],
  call .compose3 [x 19, fn .corners, x 15],
  call .fork [fn .mapFlatten, x 18, x 20],
  call .fork [fn .intersect, x 15, x 21],
  call .mapFlatten [x 15, x 1],
  call .mapFlatten [x 22, x 1],
  call .fillUnder [x 6, x 5, x 23],
  call .fill [x 25, zero, x 24]]

def task3c9b0459 : Program := [
  call .rotateHalf [input]]

def task3de23699 : Program := [
  call .foregroundClasses [input],
  call .selectSize [x 1, four],
  call .first [x 2],
  call .without [x 1, x 2],
  call .first [x 4],
  call .colorOf [x 3],
  call .colorOf [x 5],
  call .cropTo [x 3, input],
  call .trim [x 8],
  call .replaceColor [x 9, x 7, x 6]]

def task3e980e27 : Program := [
  call .objects [input, no, yes, yes],
  call .makePair [ten, ten],
  call .negate [x 2],
  call .makePair [two, x 3],
  call .makePair [three, x 3],
  call .singleton [x 4],
  call .insert [x 5, x 6],
  call .insert [x 7, x 1],
  call .bindFirst [fn .member, two],
  call .bindFirst [fn .member, three],
  call .compose [fn .negate, fn .upperLeft],
  call .bindFirst [fn .compose, x 11],
  call .bindFirst [fn .bindLast, fn .filter],
  call .compose [x 12, x 13],
  call .bindLast [fn .compose, fn .center],
  call .bindFirst [fn .bindFirst, fn .shift],
  callResult 14 [x 9],
  callResult 14 [x 10],
  call .fork [fn .shift, fn .identity, x 17],
  call .fork [fn .shift, fn .identity, x 18],
  call .compose [x 9, fn .palette],
  call .compose [x 10, fn .palette],
  call .filter [x 8, x 21],
  call .greatestBy [x 23, fn .size],
  call .erase [x 24, x 23],
  call .flipColumns [x 24],
  call .compose3 [x 15, x 16, x 19],
  callResult 27 [x 26],
  call .mapFlatten [x 28, x 25],
  call .filter [x 8, x 22],
  call .greatestBy [x 30, fn .size],
  call .erase [x 31, x 30],
  call .compose3 [x 15, x 16, x 20],
  callResult 33 [x 31],
  call .mapFlatten [x 34, x 32],
  call .union [x 29, x 35],
  call .paint [input, x 36]]

def task3eda0437 : Program := [
  call .range [two, ten, one],
  call .productMap [fn .makePair, x 1, x 1],
  call .bindFirst [fn .canvas, zero],
  call .bindFirst [fn .occurrences, input],
  call .bindFirst [fn .bindFirst, fn .shift],
  call .fork [fn .map, x 5, x 4],
  call .compose3 [x 6, fn .gridObject, x 3],
  call .mapFlatten [x 7, x 2],
  call .greatestBy [x 8, fn .size],
  call .fill [input, six, x 9]]

def task3f7978a0 : Program := [
  call .foregroundClasses [input],
  call .hasResult [fn .colorOf, five],
  call .findFirst [x 1, x 2],
  call .upperLeft [x 3],
  call .subtract [x 4, down],
  call .shape [x 3],
  call .add [x 6, twoByZero],
  call .crop [input, x 5, x 7]]

/-- The programs of this module by the identifiers of their tasks. -/
def shelf3 : List (String × Program) := [
  ("31aa019c", task31aa019c),
  ("321b1fc6", task321b1fc6),
  ("32597951", task32597951),
  ("3345333e", task3345333e),
  ("3428a4f5", task3428a4f5),
  ("3618c87e", task3618c87e),
  ("3631a71a", task3631a71a),
  ("363442ee", task363442ee),
  ("36d67576", task36d67576),
  ("36fdfd69", task36fdfd69),
  ("3906de3d", task3906de3d),
  ("39a8645d", task39a8645d),
  ("39e1d7f9", task39e1d7f9),
  ("3aa6fb7a", task3aa6fb7a),
  ("3ac3eb23", task3ac3eb23),
  ("3af2c5a8", task3af2c5a8),
  ("3bd67248", task3bd67248),
  ("3bdb4ada", task3bdb4ada),
  ("3befdf3e", task3befdf3e),
  ("3c9b0459", task3c9b0459),
  ("3de23699", task3de23699),
  ("3e980e27", task3e980e27),
  ("3eda0437", task3eda0437),
  ("3f7978a0", task3f7978a0)]

end Task

end GridPuzzle
