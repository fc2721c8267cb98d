import GridPuzzle.Program

/-!
Programs of the tasks whose identifiers begin with the digit c.
-/

namespace GridPuzzle

namespace Task

open Program

def taskc0f76784 : Program := [
  call .objects [input, yes, no, no],
  call .selectColor [x 1, zero],
  call .filter [x 2, fn .isSquare],
  call .selectSize [x 3, one],
  call .flatten [x 4],
  call .greatestBy [x 3, fn .size],
  call .flatten [x 3],
  call .fill [input, seven, x 7],
  call .fill [x 8, eight, x 6],
  call .fill [x 9, six, x 5]]

def taskc1d99e64 : Program := [
  call .uniformLines [input],
  call .flatten [x 1],
  call .fill [input, two, x 2]]

def taskc3e719e8 : Program := [
  call .mostColor [input],
  call .beside [input, input],
  call .enlarge [input, three],
  call .locationsOf [x 3, x 1],
  call .allLocations [x 3],
  call .without [x 5, x 4],
  call .beside [x 2, input],
  call .above [x 7, x 7],
  call .above [x 8, x 7],
  call .fill [x 9, zero, x 6]]

def taskc3f564a4 : Program := [
  call .allLocations [input],
  call .transpose [input],
  call .negate [nine],
  call .zipMap [fn .zip, input, x 2],
  call .bindFirst [fn .map, fn .maximum],
  call .map [x 5, x 4],
  call .locationsOf [x 6, zero],
  call .without [x 1, x 7],
  call .objectOn [x 8, x 6],
  call .range [x 3, nine, one],
  call .range [nine, x 3, negOne],
  call .zip [x 10, x 11],
  call .bindFirst [fn .shift, x 9],
  call .mapFlatten [x 13, x 12],
  call .paint [x 6, x 14]]

def taskc444b776 : Program := [
  call .objects [input, yes, no, no],
  call .selectColor [x 1, zero],
  call .leastBy [x 2, fn .size],
  call .boundingBox [x 3],
  call .objectOn [x 4, input],
  call .toOrigin [x 5],
  call .bindFirst [fn .shift, x 6],
  call .compose [x 7, fn .upperLeft],
  call .mapFlatten [x 8, x 2],
  call .paint [input, x 9]]

def taskc59eb873 : Program := [
  call .enlarge [input, two]]

def taskc8cbb738 : Program := [
  call .mostColor [input],
  call .foregroundClasses [input],
  call .greatestKey [x 2, fn .shape],
  call .canvas [x 1, x 3],
  call .map [fn .toOrigin, x 2],
  call .bindFirst [fn .subtract, x 3],
  call .compose3 [fn .halve, x 6, fn .shape],
  call .fork [fn .shift, fn .identity, x 7],
  call .mapFlatten [x 8, x 5],
  call .paint [x 4, x 9]]

def taskc8f0f002 : Program := [
  call .replaceColor [input, seven, five]]

def taskc909285e : Program := [
  call .leastColor [input],
  call .locationsOf [input, x 1],
  call .cropTo [x 2, input]]

def taskc9e6f938 : Program := [
  call .flipColumns [input],
  call .beside [input, x 1]]

def taskc9f8e694 : Program := [
  call .height [input],
  call .width [input],
  call .locationsOf [input, zero],
  call .makePair [x 1, one],
  call .crop [input, origin, x 4],
  call .stretchColumns [x 5, x 2],
  call .fill [x 6, zero, x 3]]

def taskcaa06a1f : Program := [
  call .gridObject [input],
  call .shape [input],
  call .decrement [x 2],
  call .cellAt [input, x 3],
  call .double [x 2],
  call .canvas [x 4, x 5],
  call .paint [x 6, x 1],
  call .objects [x 7, no, no, yes],
  call .first [x 8],
  call .shift [x 9, left],
  call .rowPeriod [x 10],
  call .columnPeriod [x 10],
  call .neighbors [origin],
  call .bindFirst [fn .mapFlatten, fn .neighbors],
  call .iterate [x 14, two],
  callResult 15 [x 13],
  call .makePair [x 11, x 12],
  call .bindFirst [fn .multiply, x 17],
  call .map [x 18, x 16],
  call .bindFirst [fn .shift, x 10],
  call .mapFlatten [x 20, x 19],
  call .paint [input, x 21]]

def taskcbded52d : Program := [
  call .objects [input, yes, no, yes],
  call .selectSize [x 1, one],
  call .product [x 2, x 2],
  call .fork [fn .sharesColumn, fn .first, fn .last],
  call .fork [fn .sharesRow, fn .first, fn .last],
  call .fork [fn .either, x 4, x 5],
  call .filter [x 3, x 6],
  call .compose [fn .center, fn .first],
  call .compose [fn .center, fn .last],
  call .fork [fn .line, x 8, x 9],
  call .compose3 [fn .singleton, fn .center, x 10],
  call .compose [fn .colorOf, fn .first],
  call .fork [fn .recolor, x 12, x 11],
  call .mapFlatten [x 13, x 7],
  call .paint [input, x 14]]

def taskcce03e0d : Program := [
  call .enlarge [input, three],
  call .beside [input, input],
  call .beside [x 2, input],
  call .above [x 3, x 3],
  call .above [x 4, x 3],
  call .locationsOf [x 1, zero],
  call .locationsOf [x 1, one],
  call .union [x 6, x 7],
  call .fill [x 5, zero, x 8]]

def taskcdecee7f : Program := [
  call .objects [input, yes, no, yes],
  call .makePair [one, three],
  call .size [x 1],
  call .sortBy [x 1, fn .leftColumn],
  call .map [fn .colorOf, x 4],
  call .bindLast [fn .canvas, unity],
  call .map [x 6, x 5],
  call .flatten [x 7],
  call .transpose [x 8],
  call .subtract [nine, x 3],
  call .makePair [one, x 10],
  call .canvas [zero, x 11],
  call .beside [x 9, x 12],
  call .splitColumns [x 13, three],
  call .flatten [x 14],
  call .crop [x 15, origin, x 2],
  call .crop [x 15, down, x 2],
  call .crop [x 15, twoByZero, x 2],
  call .flipColumns [x 17],
  call .above [x 16, x 19],
  call .above [x 20, x 18]]

def taskce22a75a : Program := [
  call .objects [input, yes, no, yes],
  call .map [fn .outerRing, x 1],
  call .mapFlatten [fn .boundingBox, x 2],
  call .fill [input, one, x 3]]

def taskce4f8723 : Program := [
  call .topHalf [input],
  call .bottomHalf [input],
  call .locationsOf [x 1, zero],
  call .locationsOf [x 2, zero],
  call .intersect [x 3, x 4],
  call .makePair [four, four],
  call .canvas [three, x 6],
  call .fill [x 7, zero, x 5]]

def taskce602527 : Program := [
  call .flipColumns [input],
  call .foregroundClasses [x 1],
  call .sortBy [x 2, fn .size],
  call .last [x 3],
  call .erase [x 4, x 3],
  call .compose [fn .locations, fn .toOrigin],
  call .bindLast [fn .enlarge, two],
  call .compose3 [fn .locations, x 7, fn .toOrigin],
  callResult 6 [x 4],
  call .bindLast [fn .intersect, x 9],
  call .compose3 [fn .size, x 10, x 8],
  call .greatestBy [x 5, x 11],
  call .cropTo [x 12, x 1],
  call .flipColumns [x 13]]

def taskce9e57f2 : Program := [
  call .objects [input, yes, no, yes],
  call .fork [fn .line, fn .upperLeft, fn .centroid],
  call .mapFlatten [x 2, x 1],
  call .fill [input, eight, x 3],
  call .swapColors [x 4, eight, two]]

def taskcf98881b : Program := [
  call .splitColumns [input, three],
  call .first [x 1],
  call .erase [x 2, x 1],
  call .first [x 3],
  call .last [x 3],
  call .locationsOf [x 4, nine],
  call .locationsOf [x 2, four],
  call .fill [x 5, nine, x 6],
  call .fill [x 8, four, x 7]]

/-- The programs of this module by the identifiers of their tasks. -/
def shelfC : List (String × Program) := [
  ("c0f76784", taskc0f76784),
  ("c1d99e64", taskc1d99e64),
  ("c3e719e8", taskc3e719e8),
  ("c3f564a4", taskc3f564a4),
  ("c444b776", taskc444b776),
  ("c59eb873", taskc59eb873),
  ("c8cbb738", taskc8cbb738),
  ("c8f0f002", taskc8f0f002),
  ("c909285e", taskc909285e),
  ("c9e6f938", taskc9e6f938),
  ("c9f8e694", taskc9f8e694),
  ("caa06a1f", taskcaa06a1f),
  ("cbded52d", taskcbded52d),
  ("cce03e0d", taskcce03e0d),
  ("cdecee7f", taskcdecee7f),
  ("ce22a75a", taskce22a75a),
  ("ce4f8723", taskce4f8723),
  ("ce602527", taskce602527),
  ("ce9e57f2", taskce9e57f2),
  ("cf98881b", taskcf98881b)]

end Task

end GridPuzzle
