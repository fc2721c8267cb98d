import GridPuzzle.Program

/-!
Programs of the tasks whose identifiers begin with the digit 1.
-/

namespace GridPuzzle

namespace Task

open Program

def task10fcaaa3 : Program := [
  call .leastColor [input],
  call .beside [input, input],
  call .above [x 2, x 2],
  call .locationsOf [x 3, x 1],
  call .mapFlatten [fn .cornerNeighbors, x 4],
  call .fillUnder [x 3, eight, x 5]]

def task11852cab : Program := [
  call .objects [input, yes, yes, yes],
  call .flatten [x 1],
  call .flipRows [x 2],
  call .flipColumns [x 2],
  call .transpose [x 2],
  call .antiTranspose [x 2],
  call .paint [input, x 3],
  call .paint [x 7, x 4],
  call .paint [x 8, x 5],
  call .paint [x 9, x 6]]

def task1190e5a7 : Program := [
  call .mostColor [input],
  call .uniformLines [input],
  call .filter [x 2, fn .isVerticalLine],
  call .without [x 2, x 3],
  call .makePair [x 4, x 3],
  call .map [fn .size, x 5],
  call .increment [x 6],
  call .canvas [x 1, x 7]]

def task137eaa0f : Program := [
  call .objects [input, no, yes, yes],
  call .hasResult [fn .first, five],
  call .bindLast [fn .filter, x 2],
  call .compose3 [fn .negate, fn .center, x 3],
  call .fork [fn .shift, fn .identity, x 4],
  call .canvas [zero, threeByThree],
  call .mapFlatten [x 5, x 1],
  call .shift [x 7, unity],
  call .paint [x 6, x 8]]

def task150deff5 : Program := [
  call .canvas [five, twoByTwo],
  call .gridObject [x 1],
  call .occurrences [input, x 2],
  call .bindFirst [fn .shift, x 2],
  call .mapFlatten [x 4, x 3],
  call .fill [input, eight, x 5],
  call .canvas [five, unity],
  call .makePair [two, one],
  call .canvas [eight, x 8],
  call .above [x 9, x 7],
  call .gridObject [x 10],
  call .occurrences [x 6, x 11],
  call .bindFirst [fn .shift, x 11],
  call .mapFlatten [x 13, x 12],
  call .fill [x 6, two, x 14],
  call .makePair [one, three],
  call .canvas [five, x 16],
  call .gridObject [x 17],
  call .occurrences [x 15, x 18],
  call .bindFirst [fn .shift, x 18],
  call .mapFlatten [x 20, x 19],
  call .fill [x 15, two, x 21],
  call .flipRows [x 10],
  call .gridObject [x 23],
  call .occurrences [x 22, x 24],
  call .bindFirst [fn .shift, x 24],
  call .mapFlatten [x 26, x 25],
  call .fill [x 22, two, x 27],
  call .transpose [x 10],
  call .gridObject [x 29],
  call .occurrences [x 28, x 30],
  call .bindFirst [fn .shift, x 30],
  call .mapFlatten [x 32, x 31],
  call .fill [x 28, two, x 33],
  call .flipColumns [x 29],
  call .gridObject [x 35],
  call .occurrences [x 34, x 36],
  call .bindFirst [fn .shift, x 36],
  call .mapFlatten [x 38, x 37],
  call .fill [x 34, two, x 39]]

def task178fcbfb : Program := [
  call .objects [input, yes, no, yes],
  call .locationsOf [input, two],
  call .mapFlatten [fn .columnThrough, x 2],
  call .fill [input, two, x 3],
  call .selectColor [x 1, two],
  call .without [x 1, x 5],
  call .compose [fn .rowThrough, fn .center],
  call .fork [fn .recolor, fn .colorOf, x 7],
  call .mapFlatten [x 8, x 6],
  call .paint [x 4, x 9]]

def task1a07d186 : Program := [
  call .objects [input, yes, no, yes],
  call .selectSize [x 1, one],
  call .without [x 1, x 2],
  call .map [fn .colorOf, x 3],
  call .bindLast [fn .member, x 4],
  call .compose [x 5, fn .colorOf],
  call .filter [x 2, x 6],
  call .bindFirst [fn .selectColor, x 3],
  call .compose3 [fn .first, x 8, fn .colorOf],
  call .fork [fn .gravitate, fn .identity, x 9],
  call .fork [fn .shift, fn .identity, x 10],
  call .mapFlatten [x 11, x 7],
  call .flatten [x 2],
  call .erasePatch [input, x 13],
  call .paint [x 14, x 12]]

def task1b2d62fb : Program := [
  call .leftHalf [input],
  call .rightHalf [input],
  call .locationsOf [x 1, zero],
  call .locationsOf [x 2, zero],
  call .intersect [x 3, x 4],
  call .replaceColor [x 1, nine, zero],
  call .fill [x 6, eight, x 5]]

def task1b60fb0c : Program := [
  call .rotateRight [input],
  call .locationsOf [input, one],
  call .locationsOf [x 1, one],
  call .neighbors [origin],
  call .mapFlatten [fn .neighbors, x 4],
  call .bindFirst [fn .shift, x 3],
  call .map [x 6, x 5],
  call .bindFirst [fn .intersect, x 2],
  call .compose [fn .size, x 8],
  call .greatestBy [x 7, x 9],
  call .fillUnder [input, two, x 10]]

def task1bfc4729 : Program := [
  call .allLocations [input],
  call .topHalf [input],
  call .bottomHalf [input],
  call .leastColor [x 2],
  call .leastColor [x 3],
  call .rowThrough [twoByZero],
  call .ring [x 1],
  call .union [x 6, x 7],
  call .fill [x 2, x 4, x 8],
  call .flipRows [x 9],
  call .replaceColor [x 10, x 4, x 5],
  call .above [x 9, x 11]]

def task1c786137 : Program := [
  call .objects [input, yes, no, no],
  call .greatestBy [x 1, fn .height],
  call .cropTo [x 2, input],
  call .trim [x 3]]

def task1caeab9d : Program := [
  call .objects [input, yes, yes, yes],
  call .locationsOf [input, one],
  call .bottomRow [x 2],
  call .bindFirst [fn .subtract, x 3],
  call .compose3 [fn .downBy, x 4, fn .bottomRow],
  call .fork [fn .shift, fn .identity, x 5],
  call .flatten [x 1],
  call .erasePatch [input, x 7],
  call .mapFlatten [x 6, x 1],
  call .paint [x 8, x 9]]

def task1cf80156 : Program := [
  call .objects [input, yes, yes, yes],
  call .first [x 1],
  call .cropTo [x 2, input]]

def task1e0a9b12 : Program := [
  call .rotateLeft [input],
  call .bindLast [fn .sortBy, fn .identity],
  call .map [x 2, x 1],
  call .rotateRight [x 3]]

def task1e32b0e9 : Program := [
  call .height [input],
  call .mostColor [input],
  call .gridObject [input],
  call .subtract [x 1, two],
  call .divide [x 4, three],
  call .makePair [x 5, x 5],
  call .crop [input, origin, x 6],
  call .colorClasses [x 7],
  call .hasResult [fn .colorOf, zero],
  call .compose [fn .not, x 9],
  call .findFirst [x 8, x 10],
  call .singleton [x 2],
  call .palette [x 3],
  call .palette [x 11],
  call .without [x 13, x 14],
  call .without [x 15, x 12],
  call .first [x 16],
  call .range [zero, three, one],
  call .product [x 18, x 18],
  call .toTuple [x 19],
  call .map [fn .first, x 20],
  call .map [fn .last, x 20],
  call .bindFirst [fn .multiply, x 5],
  call .map [x 23, x 21],
  call .map [x 23, x 22],
  call .zipMap [fn .add, x 24, x 21],
  call .zipMap [fn .add, x 25, x 22],
  call .zipMap [fn .makePair, x 26, x 27],
  call .bindFirst [fn .shift, x 11],
  call .mapFlatten [x 29, x 28],
  call .fillUnder [input, x 17, x 30]]

def task1f0c79e5 : Program := [
  call .locationsOf [input, two],
  call .replaceColor [input, two, zero],
  call .leastColor [x 2],
  call .locationsOf [x 2, x 3],
  call .union [x 1, x 4],
  call .recolor [x 3, x 5],
  call .compose [fn .decrement, fn .double],
  call .upperLeft [x 5],
  call .negate [x 8],
  call .shift [x 1, x 9],
  call .map [x 7, x 10],
  call .range [zero, nine, one],
  call .productMap [fn .multiply, x 11, x 12],
  call .bindFirst [fn .shift, x 6],
  call .mapFlatten [x 14, x 13],
  call .paint [input, x 15]]

def task1f642eb9 : Program := [
  call .objects [input, yes, no, yes],
  call .selectSize [x 1, one],
  call .without [x 1, x 2],
  call .first [x 3],
  call .bindLast [fn .gravitate, x 4],
  call .compose [fn .awayFromZero, x 5],
  call .fork [fn .shift, fn .identity, x 6],
  call .mapFlatten [x 7, x 2],
  call .paint [input, x 8]]

def task1f85a75f : Program := [
  call .objects [input, yes, yes, yes],
  call .greatestBy [x 1, fn .size],
  call .cropTo [x 2, input]]

def task1f876c06 : Program := [
  call .foregroundClasses [input],
  call .compose [fn .last, fn .first],
  call .iterate [fn .last, two],
  call .fork [fn .line, x 2, x 3],
  call .fork [fn .recolor, fn .colorOf, x 4],
  call .mapFlatten [x 5, x 1],
  call .paint [input, x 6]]

def task1fad071e : Program := [
  call .objects [input, yes, no, yes],
  call .selectColor [x 1, one],
  call .selectSize [x 2, four],
  call .size [x 3],
  call .subtract [five, x 4],
  call .makePair [one, x 4],
  call .canvas [one, x 6],
  call .makePair [one, x 5],
  call .canvas [zero, x 8],
  call .beside [x 7, x 9]]

/-- The programs of this module by the identifiers of their tasks. -/
def shelf1 : List (String × Program) := [
  ("10fcaaa3", task10fcaaa3),
  ("11852cab", task11852cab),
  ("1190e5a7", task1190e5a7),
  ("137eaa0f", task137eaa0f),
  ("150deff5", task150deff5),
  ("178fcbfb", task178fcbfb),
  ("1a07d186", task1a07d186),
  ("1b2d62fb", task1b2d62fb),
  ("1b60fb0c", task1b60fb0c),
  ("1bfc4729", task1bfc4729),
  ("1c786137", task1c786137),
  ("1caeab9d", task1caeab9d),
  ("1cf80156", task1cf80156),
  ("1e0a9b12", task1e0a9b12),
  ("1e32b0e9", task1e32b0e9),
  ("1f0c79e5", task1f0c79e5),
  ("1f642eb9", task1f642eb9),
  ("1f85a75f", task1f85a75f),
  ("1f876c06", task1f876c06),
  ("1fad071e", task1fad071e)]

end Task

end GridPuzzle
