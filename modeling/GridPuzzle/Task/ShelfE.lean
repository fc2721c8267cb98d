import GridPuzzle.Program

/-!
Programs of the tasks whose identifiers begin with the digit e.
-/

namespace GridPuzzle

namespace Task

open Program

def taske179c5f4 : Program := [
  call .height [input],
  call .locationsOf [input, one],
  call .first [x 2],
  call .ray [x 3, upRight],
  call .fill [input, one, x 4],
  call .locationsOf [x 5, one],
  call .upperRight [x 6],
  call .ray [x 7, negUnity],
  call .fill [x 5, one, x 8],
  call .locationsOf [x 9, one],
  call .cropTo [x 10, x 9],
  call .height [x 11],
  call .width [x 11],
  call .decrement [x 12],
  call .makePair [x 14, x 13],
  call .upperLeft [x 10],
  call .crop [x 9, x 16, x 15],
  call .replicate [x 17, nine],
  call .flatten [x 18],
  call .makePair [x 1, x 13],
  call .crop [x 19, origin, x 20],
  call .flipRows [x 21],
  call .replaceColor [x 22, zero, eight]]

def taske21d9049 : Program := [
  call .allLocations [input],
  call .leastColor [input],
  call .objects [input, yes, no, yes],
  call .locationsOf [input, x 2],
  call .flatten [x 3],
  call .shape [x 5],
  call .neighbors [origin],
  call .bindFirst [fn .mapFlatten, fn .neighbors],
  call .iterate [x 8, two],
  callResult 9 [x 7],
  call .bindFirst [fn .multiply, x 6],
  call .bindFirst [fn .shift, x 5],
  call .map [x 11, x 10],
  call .mapFlatten [x 12, x 13],
  call .bindFirst [fn .sharesRow, x 4],
  call .bindFirst [fn .sharesColumn, x 4],
  call .fork [fn .either, x 15, x 16],
  call .compose [x 17, fn .singleton],
  call .paint [input, x 14],
  call .filter [x 1, x 18],
  call .without [x 1, x 20],
  call .erasePatch [x 19, x 21]]

def taske26a3af2 : Program := [
  call .rotateRight [input],
  call .map [fn .mostCommon, input],
  call .map [fn .mostCommon, x 1],
  call .replicate [x 2, one],
  call .replicate [x 3, one],
  call .compose [fn .size, fn .distinct],
  callResult 6 [x 2],
  callResult 6 [x 3],
  call .greater [x 8, x 7],
  call .choose [x 9, fn .height, fn .width],
  callResult 10 [input],
  call .rotateRight [x 4],
  call .choose [x 9, x 5, x 12],
  call .choose [x 9, fn .stretchRows, fn .stretchColumns],
  callResult 14 [x 13, x 11]]

def taske3497940 : Program := [
  call .leftHalf [input],
  call .rightHalf [input],
  call .flipColumns [x 2],
  call .objects [x 3, yes, no, yes],
  call .flatten [x 4],
  call .paint [x 1, x 5]]

def taske40b9e2f : Program := [
  call .objects [input, no, yes, yes],
  call .neighbors [origin],
  call .mapFlatten [fn .neighbors, x 2],
  call .first [x 1],
  call .bindFirst [fn .intersect, x 4],
  call .compose [fn .size, x 5],
  call .compose [fn .flipRows, fn .flipColumns],
  callResult 7 [x 4],
  call .bindFirst [fn .shift, x 8],
  call .map [x 9, x 3],
  call .greatestBy [x 10, x 6],
  call .paint [input, x 11],
  call .objects [x 12, no, yes, yes],
  call .first [x 13],
  call .compose [fn .flipColumns, fn .transpose],
  callResult 15 [x 14],
  call .bindFirst [fn .shift, x 16],
  call .map [x 17, x 3],
  call .greatestBy [x 18, x 6],
  call .paint [x 12, x 19]]

def taske48d4e1a : Program := [
  call .shape [input],
  call .locationsOf [input, five],
  call .fill [input, zero, x 2],
  call .leastColor [x 3],
  call .size [x 2],
  call .locationsOf [input, x 4],
  call .bindLast [fn .objectOn, input],
  call .bindLast [fn .countColor, x 4],
  call .compose3 [x 8, x 7, fn .sideNeighbors],
  call .hasResult [x 9, four],
  call .findFirst [x 6, x 10],
  call .multiply [downLeft, x 5],
  call .add [x 12, x 11],
  call .canvas [zero, x 1],
  call .fork [fn .union, fn .columnThrough, fn .rowThrough],
  callResult 15 [x 13],
  call .fill [x 14, x 4, x 16]]

def taske5062a87 : Program := [
  call .locationsOf [input, two],
  call .recolor [zero, x 1],
  call .toOrigin [x 2],
  call .occurrences [input, x 2],
  call .bindFirst [fn .shift, x 3],
  call .map [x 5, x 4],
  call .makePair [one, three],
  call .makePair [five, one],
  call .makePair [two, six],
  call .singleton [x 7],
  call .insert [x 8, x 10],
  call .insert [x 9, x 11],
  call .bindLast [fn .member, x 12],
  call .compose3 [fn .not, x 13, fn .upperLeft],
  call .filter [x 6, x 14],
  call .flatten [x 15],
  call .recolor [two, x 16],
  call .paint [input, x 17]]

def taske509e548 : Program := [
  call .objects [input, yes, no, yes],
  call .bindLast [fn .cropTo, input],
  call .compose3 [fn .palette, fn .trim, x 2],
  call .bindFirst [fn .member, three],
  call .compose [x 4, x 3],
  call .fork [fn .add, fn .height, fn .width],
  call .compose [fn .decrement, x 6],
  call .fork [fn .equal, fn .size, x 7],
  call .filterFlatten [x 1, x 5],
  call .filterFlatten [x 1, x 8],
  call .replaceColor [input, three, six],
  call .fill [x 11, two, x 9],
  call .fill [x 12, one, x 10]]

def taske50d258f : Program := [
  call .width [input],
  call .makePair [nine, x 1],
  call .canvas [zero, x 2],
  call .above [input, x 3],
  call .objects [x 4, no, no, yes],
  call .bindLast [fn .countColor, two],
  call .greatestBy [x 5, x 6],
  call .cropTo [x 7, input]]

def taske6721834 : Program := [
  call .isTall [input],
  call .choose [x 1, fn .splitRows, fn .splitColumns],
  callResult 2 [input, two],
  call .sortBy [x 3, fn .colorTotal],
  call .first [x 4],
  call .last [x 4],
  call .objects [x 6, no, no, yes],
  call .flatten [x 7],
  call .mostColor [x 8],
  call .hasResult [fn .first, x 9],
  call .compose [fn .not, x 10],
  call .bindLast [fn .filter, x 11],
  call .bindFirst [fn .occurrences, x 5],
  call .compose [x 13, x 12],
  call .compose3 [fn .isPositive, fn .size, x 14],
  call .filter [x 7, x 15],
  call .compose3 [fn .first, x 13, x 12],
  call .compose [fn .upperLeft, x 12],
  call .fork [fn .subtract, x 17, x 18],
  call .fork [fn .shift, fn .identity, x 19],
  call .map [x 20, x 16],
  call .compose [fn .decrement, fn .width],
  call .compose3 [fn .isPositive, fn .decrement, x 22],
  call .filterFlatten [x 21, x 23],
  call .paint [x 5, x 24]]

def taske73095fd : Program := [
  call .objects [input, yes, no, no],
  call .selectColor [x 1, zero],
  call .fork [fn .equal, fn .locations, fn .boundingBox],
  call .filter [x 2, x 3],
  call .bindFirst [fn .mapFlatten, fn .sideNeighbors],
  call .compose3 [x 5, fn .corners, fn .outerRing],
  call .fork [fn .without, x 6, fn .outerRing],
  call .locationsOf [input, five],
  call .bindLast [fn .intersect, x 8],
  call .hasResult [fn .size, zero],
  call .compose3 [x 10, x 9, x 7],
  call .filterFlatten [x 4, x 11],
  call .fill [input, four, x 12]]

def taske76a88a6 : Program := [
  call .objects [input, no, no, yes],
  call .greatestBy [x 1, fn .colorTotal],
  call .toOrigin [x 2],
  call .erase [x 2, x 1],
  call .map [fn .upperLeft, x 4],
  call .bindFirst [fn .shift, x 3],
  call .mapFlatten [x 6, x 5],
  call .paint [input, x 7]]

def taske8593010 : Program := [
  call .objects [input, yes, no, yes],
  call .selectSize [x 1, one],
  call .selectSize [x 1, two],
  call .flatten [x 2],
  call .fill [input, three, x 4],
  call .flatten [x 3],
  call .fill [x 5, two, x 6],
  call .replaceColor [x 7, zero, one]]

def taske8dc4411 : Program := [
  call .leastColor [input],
  call .locationsOf [input, zero],
  call .locationsOf [input, x 1],
  call .direction [x 2, x 3],
  call .fork [fn .line, fn .upperLeft, fn .lowerRight],
  callResult 5 [x 2],
  call .intersect [x 2, x 6],
  call .equal [x 6, x 7],
  call .fork [fn .subtract, fn .identity, fn .awayFromZero],
  call .fork [fn .add, fn .identity, x 9],
  call .choose [x 8, fn .identity, x 10],
  call .shape [x 2],
  call .multiply [x 12, x 4],
  call .map [x 11, x 13],
  call .range [one, five, one],
  call .bindFirst [fn .multiply, x 14],
  call .map [x 16, x 15],
  call .bindFirst [fn .shift, x 2],
  call .mapFlatten [x 18, x 17],
  call .fill [input, x 1, x 19]]

def taske9614598 : Program := [
  call .locationsOf [input, one],
  call .fork [fn .add, fn .first, fn .last],
  callResult 2 [x 1],
  call .halve [x 3],
  call .sideNeighbors [x 4],
  call .insert [x 4, x 5],
  call .fill [input, three, x 6]]

def taske98196ab : Program := [
  call .topHalf [input],
  call .bottomHalf [input],
  call .objects [x 1, yes, no, yes],
  call .flatten [x 3],
  call .paint [x 2, x 4]]

def taske9afcf9a : Program := [
  call .makePair [two, one],
  call .crop [input, origin, x 1],
  call .flipRows [x 2],
  call .beside [x 2, x 3],
  call .beside [x 4, x 4],
  call .beside [x 5, x 4]]

def taskea32f347 : Program := [
  call .objects [input, yes, no, yes],
  call .replaceColor [input, five, four],
  call .leastBy [x 1, fn .size],
  call .greatestBy [x 1, fn .size],
  call .fill [x 2, one, x 4],
  call .fill [x 5, two, x 3]]

def taskea786f4a : Program := [
  call .width [input],
  call .ray [origin, unity],
  call .decrement [x 1],
  call .rightBy [x 3],
  call .ray [x 4, downLeft],
  call .union [x 2, x 5],
  call .fill [input, zero, x 6]]

def taskeb281b96 : Program := [
  call .height [input],
  call .width [input],
  call .decrement [x 1],
  call .makePair [x 3, x 2],
  call .crop [input, origin, x 4],
  call .flipRows [x 5],
  call .above [input, x 6],
  call .double [x 3],
  call .makePair [x 8, x 2],
  call .crop [x 7, down, x 9],
  call .above [x 7, x 10]]

def taskeb5a1d5d : Program := [
  call .compose [fn .transpose, fn .distinct],
  callResult 1 [input],
  callResult 1 [x 2],
  call .fork [fn .erase, fn .last, fn .identity],
  call .compose [fn .flipRows, x 4],
  call .fork [fn .above, fn .identity, x 5],
  callResult 6 [x 3],
  call .transpose [x 7],
  callResult 6 [x 8]]

def taskec883f72 : Program := [
  call .palette [input],
  call .objects [input, yes, yes, yes],
  call .fork [fn .multiply, fn .height, fn .width],
  call .greatestBy [x 2, x 3],
  call .colorOf [x 4],
  call .erase [zero, x 1],
  call .other [x 6, x 5],
  call .lowerRight [x 4],
  call .lowerLeft [x 4],
  call .upperRight [x 4],
  call .upperLeft [x 4],
  call .ray [x 8, unity],
  call .ray [x 9, downLeft],
  call .ray [x 10, upRight],
  call .ray [x 11, negUnity],
  call .union [x 12, x 13],
  call .union [x 14, x 15],
  call .union [x 16, x 17],
  call .fillUnder [input, x 7, x 18]]

def taskecdecbb3 : Program := [
  call .objects [input, yes, no, yes],
  call .selectColor [x 1, two],
  call .selectColor [x 1, eight],
  call .product [x 2, x 3],
  call .fork [fn .gravitate, fn .first, fn .last],
  call .compose [fn .awayFromZero, x 5],
  call .compose [fn .center, fn .first],
  call .fork [fn .add, x 7, x 6],
  call .fork [fn .line, x 7, x 8],
  call .map [x 9, x 4],
  call .bindFirst [fn .greater, eight],
  call .compose [x 11, fn .size],
  call .filterFlatten [x 10, x 12],
  call .fill [input, two, x 13],
  call .map [x 8, x 4],
  call .intersect [x 13, x 15],
  call .mapFlatten [fn .neighbors, x 16],
  call .fill [x 14, eight, x 17]]

def tasked36ccf7 : Program := [
  call .rotateLeft [input]]

def taskef135b50 : Program := [
  call .locationsOf [input, two],
  call .locationsOf [input, zero],
  call .product [x 1, x 1],
  call .iterate [fn .first, two],
  call .compose [fn .first, fn .last],
  call .fork [fn .equal, x 4, x 5],
  call .filter [x 3, x 6],
  call .fork [fn .line, fn .first, fn .last],
  call .mapFlatten [x 8, x 7],
  call .intersect [x 9, x 2],
  call .fill [input, nine, x 10],
  call .trim [x 11],
  call .gridObject [x 12],
  call .shift [x 13, unity],
  call .paint [input, x 14]]

/-- The programs of this module by the identifiers of their tasks. -/
def shelfE : List (String × Program) := [
  ("e179c5f4", taske179c5f4),
  ("e21d9049", taske21d9049),
  ("e26a3af2", taske26a3af2),
  ("e3497940", taske3497940),
  ("e40b9e2f", taske40b9e2f),
  ("e48d4e1a", taske48d4e1a),
  ("e5062a87", taske5062a87),
  ("e509e548", taske509e548),
  ("e50d258f", taske50d258f),
  ("e6721834", taske6721834),
  ("e73095fd", taske73095fd),
  ("e76a88a6", taske76a88a6),
  ("e8593010", taske8593010),
  ("e8dc4411", taske8dc4411),
  ("e9614598", taske9614598),
  ("e98196ab", taske98196ab),
  ("e9afcf9a", taske9afcf9a),
  ("ea32f347", taskea32f347),
  ("ea786f4a", taskea786f4a),
  ("eb281b96", taskeb281b96),
  ("eb5a1d5d", taskeb5a1d5d),
  ("ec883f72", taskec883f72),
  ("ecdecbb3", taskecdecbb3),
  ("ed36ccf7", tasked36ccf7),
  ("ef135b50", taskef135b50)]

end Task

end GridPuzzle
