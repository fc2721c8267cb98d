import GridPuzzle.Program

/-!
Programs of the tasks whose identifiers begin with the digit 2.
-/

namespace GridPuzzle

namespace Task

open Program

def task2013d3e2 : Program := [
  call .objects [input, no, yes, yes],
  call .first [x 1],
  call .cropTo [x 2, input],
  call .leftHalf [x 3],
  call .topHalf [x 4]]

def task2204b7a8 : Program := [
  call .objects [input, yes, no, yes],
  call .bindFirst [fn .filter, x 1],
  call .compose [fn .size, x 2],
  callResult 3 [fn .isVerticalLine],
  callResult 3 [fn .isHorizontalLine],
  call .greater [x 4, x 5],
  call .choose [x 6, fn .leftHalf, fn .topHalf],
  call .choose [x 6, fn .rightHalf, fn .bottomHalf],
  call .choose [x 6, fn .beside, fn .above],
  callResult 7 [input],
  callResult 8 [input],
  call .cellAt [x 10, origin],
  call .shape [x 11],
  call .decrement [x 13],
  call .cellAt [x 11, x 14],
  call .replaceColor [x 10, three, x 12],
  call .replaceColor [x 11, three, x 15],
  callResult 9 [x 16, x 17]]

def task22168020 : Program := [
  call .palette [input],
  call .erase [zero, x 1],
  call .bindFirst [fn .locationsOf, input],
  call .bindFirst [fn .productMap, fn .line],
  call .fork [x 4, x 3, x 3],
  call .compose [fn .flatten, x 5],
  call .fork [fn .recolor, fn .identity, x 6],
  call .mapFlatten [x 7, x 2],
  call .paint [input, x 8]]

def task22233c11 : Program := [
  call .objects [input, yes, yes, yes],
  call .bindLast [fn .enlarge, two],
  call .compose3 [fn .negate, fn .halve, fn .shape],
  call .fork [fn .union, fn .rowThrough, fn .columnThrough],
  call .compose [x 2, fn .flipColumns],
  call .fork [fn .shift, x 5, x 3],
  call .compose [fn .locations, x 6],
  call .bindFirst [fn .mapFlatten, x 4],
  call .compose [x 8, fn .locations],
  call .fork [fn .without, x 7, x 9],
  call .mapFlatten [x 10, x 1],
  call .fill [input, eight, x 11]]

def task2281f1f4 : Program := [
  call .locationsOf [input, five],
  call .product [x 1, x 1],
  call .iterate [fn .first, two],
  call .iterate [fn .last, two],
  call .fork [fn .makePair, x 3, x 4],
  call .map [x 5, x 2],
  call .upperRight [x 1],
  call .erase [x 7, x 6],
  call .fillUnder [input, two, x 8]]

def task228f6490 : Program := [
  call .objects [input, yes, no, no],
  call .selectColor [x 1, zero],
  call .bindLast [fn .touchesBorder, input],
  call .compose [fn .not, x 3],
  call .filter [x 2, x 4],
  call .first [x 5],
  call .last [x 5],
  call .without [x 1, x 2],
  call .compose [fn .toOrigin, fn .locations],
  callResult 9 [x 6],
  callResult 9 [x 7],
  call .hasResult [x 9, x 10],
  call .hasResult [x 9, x 11],
  call .findFirst [x 8, x 12],
  call .findFirst [x 8, x 13],
  call .upperLeft [x 6],
  call .upperLeft [x 7],
  call .upperLeft [x 14],
  call .upperLeft [x 15],
  call .subtract [x 16, x 18],
  call .subtract [x 17, x 19],
  call .move [input, x 14, x 20],
  call .move [x 22, x 15, x 21]]

def task22eb0ac0 : Program := [
  call .foregroundClasses [input],
  call .fork [fn .recolor, fn .colorOf, fn .boundingBox],
  call .map [x 2, x 1],
  call .filterFlatten [x 3, fn .isHorizontalLine],
  call .paint [input, x 4]]

def task234bbc79 : Program := [
  call .objects [input, no, no, yes],
  call .bindLast [fn .other, five],
  call .compose [x 2, fn .palette],
  call .fork [fn .recolor, x 3, fn .identity],
  call .map [x 4, x 1],
  call .sortBy [x 5, fn .leftColumn],
  call .compose [fn .last, fn .last],
  call .bindFirst [fn .hasResult, x 7],
  call .compose [x 8, fn .leftColumn],
  call .compose [x 8, fn .rightColumn],
  call .fork [fn .filter, fn .identity, x 9],
  call .fork [fn .filter, fn .identity, x 10],
  call .compose [fn .sideNeighbors, fn .last],
  call .bindLast [fn .compose3, x 13],
  call .bindFirst [x 14, fn .size],
  call .bindFirst [fn .bindLast, fn .intersect],
  call .compose3 [x 15, x 16, fn .locations],
  call .fork [fn .leastBy, x 11, x 17],
  call .fork [fn .leastBy, x 12, x 17],
  call .compose [fn .last, x 18],
  call .compose [fn .last, x 19],
  call .makePair [zero, downLeft],
  call .singleton [x 22],
  call .bindFirst [fn .add, right],
  call .compose3 [x 20, fn .first, fn .last],
  call .compose [x 21, fn .first],
  call .fork [fn .subtract, x 26, x 25],
  call .compose [fn .first, fn .last],
  call .compose [x 24, x 27],
  call .fork [fn .shift, x 28, x 29],
  call .fork [fn .union, fn .first, x 30],
  call .fork [fn .erase, x 28, fn .last],
  call .fork [fn .makePair, x 31, x 32],
  call .size [x 1],
  call .iterate [x 33, x 34],
  call .makePair [x 23, x 6],
  callResult 35 [x 36],
  call .first [x 37],
  call .width [x 38],
  call .decrement [x 39],
  call .makePair [three, x 40],
  call .canvas [zero, x 41],
  call .paint [x 42, x 38]]

def task23581191 : Program := [
  call .objects [input, yes, yes, yes],
  call .fork [fn .union, fn .columnThrough, fn .rowThrough],
  call .compose [x 2, fn .center],
  call .fork [fn .recolor, fn .colorOf, x 3],
  call .mapFlatten [x 4, x 1],
  call .paint [input, x 5],
  call .fork [fn .intersect, fn .first, fn .last],
  call .map [x 3, x 1],
  callResult 7 [x 8],
  call .fill [x 6, two, x 9]]

def task239be575 : Program := [
  call .objects [input, no, yes, yes],
  call .bindFirst [fn .member, two],
  call .compose [x 2, fn .palette],
  call .filter [x 1, x 3],
  call .size [x 4],
  call .greater [x 5, one],
  call .choose [x 6, zero, eight],
  call .canvas [x 7, unity]]

def task23b5c85d : Program := [
  call .objects [input, yes, yes, yes],
  call .leastBy [x 1, fn .size],
  call .cropTo [x 2, input]]

def task253bf280 : Program := [
  call .locationsOf [input, eight],
  call .productMap [fn .line, x 1, x 1],
  call .bindLast [fn .greater, one],
  call .compose [x 3, fn .size],
  call .filter [x 2, x 4],
  call .fork [fn .either, fn .isVerticalLine, fn .isHorizontalLine],
  call .filterFlatten [x 5, x 6],
  call .fill [input, three, x 7],
  call .fill [x 8, eight, x 1]]

def task25d487eb : Program := [
  call .leastColor [input],
  call .objects [input, yes, no, yes],
  call .locationsOf [input, x 1],
  call .center [x 3],
  call .flatten [x 2],
  call .center [x 5],
  call .subtract [x 6, x 4],
  call .ray [x 4, x 7],
  call .fillUnder [input, x 1, x 8]]

def task25d8a9c8 : Program := [
  call .allLocations [input],
  call .objects [input, yes, no, no],
  call .selectSize [x 2, three],
  call .filterFlatten [x 3, fn .isHorizontalLine],
  call .locations [x 4],
  call .without [x 1, x 5],
  call .fill [input, five, x 5],
  call .fill [x 7, zero, x 6]]

def task25ff71a9 : Program := [
  call .objects [input, yes, yes, yes],
  call .first [x 1],
  call .move [input, x 2, down]]

def task264363fd : Program := [
  call .objects [input, no, no, yes],
  call .leastBy [x 1, fn .size],
  call .toOrigin [x 2],
  call .height [x 2],
  call .width [x 2],
  call .equal [x 4, five],
  call .equal [x 5, five],
  call .makePair [x 6, x 7],
  call .add [unity, x 8],
  call .negate [x 9],
  call .center [x 2],
  call .cellAt [input, x 11],
  call .choose [x 6, up, right],
  call .add [x 13, x 11],
  call .cellAt [input, x 14],
  call .makePair [x 12, origin],
  call .singleton [x 16],
  call .erasePatch [input, x 2],
  call .mostColor [x 18],
  call .locationsOf [x 18, x 19],
  call .occurrences [x 18, x 17],
  call .objects [x 18, no, no, yes],
  call .bindLast [fn .occurrences, x 17],
  call .bindLast [fn .cropTo, x 18],
  call .compose [x 23, x 24],
  call .bindFirst [fn .mapFlatten, fn .columnThrough],
  call .bindFirst [fn .mapFlatten, fn .rowThrough],
  call .compose [x 26, x 25],
  call .compose [x 27, x 25],
  call .choose [x 6, x 28, x 29],
  call .choose [x 7, x 29, x 28],
  call .fork [fn .union, x 30, x 31],
  call .bindFirst [fn .recolor, x 15],
  call .compose [x 33, x 32],
  call .fork [fn .paint, x 24, x 34],
  call .compose [fn .gridObject, x 35],
  call .fork [fn .shift, x 36, fn .upperLeft],
  call .mapFlatten [x 37, x 22],
  call .paint [x 18, x 38],
  call .shift [x 3, x 10],
  call .bindFirst [fn .shift, x 40],
  call .mapFlatten [x 41, x 21],
  call .paint [x 39, x 42],
  call .fill [x 43, x 19, x 20]]

def task272f95fa : Program := [
  call .objects [input, yes, no, no],
  call .selectColor [x 1, zero],
  call .map [fn .locations, x 2],
  call .bindLast [fn .touchesBorder, input],
  call .compose [fn .not, x 4],
  call .findFirst [x 3, x 5],
  call .erase [x 6, x 3],
  call .bindFirst [fn .sharesColumn, x 6],
  call .bindFirst [fn .sharesRow, x 6],
  call .filter [x 7, x 8],
  call .filter [x 7, x 9],
  call .leastBy [x 10, fn .topRow],
  call .greatestBy [x 10, fn .topRow],
  call .leastBy [x 11, fn .leftColumn],
  call .greatestBy [x 11, fn .leftColumn],
  call .fill [input, six, x 6],
  call .fill [x 16, two, x 12],
  call .fill [x 17, one, x 13],
  call .fill [x 18, four, x 14],
  call .fill [x 19, three, x 15]]

def task27a28665 : Program := [
  call .objects [input, yes, no, no],
  call .greatestKey [x 1, fn .size],
  call .equal [x 2, one],
  call .equal [x 2, four],
  call .equal [x 2, five],
  call .choose [x 3, two, one],
  call .choose [x 4, three, x 6],
  call .choose [x 5, six, x 7],
  call .canvas [x 8, unity]]

def task28bf18c6 : Program := [
  call .objects [input, yes, yes, yes],
  call .first [x 1],
  call .cropTo [x 2, input],
  call .beside [x 3, x 3]]

def task28e73c20 : Program := [
  call .width [input],
  call .makePair [one, two],
  call .makePair [two, two],
  call .makePair [two, one],
  call .makePair [three, one],
  call .canvas [three, unity],
  call .enlarge [x 6, four],
  call .singleton [down],
  call .insert [unity, x 8],
  call .insert [x 2, x 9],
  call .insert [x 3, x 10],
  call .fill [x 7, zero, x 11],
  call .stretchRows [x 6, five],
  call .stretchColumns [x 13, three],
  call .insert [x 4, x 9],
  call .insert [x 5, x 15],
  call .fill [x 14, zero, x 16],
  call .isEven [x 1],
  call .choose [x 18, x 12, x 17],
  call .canvas [zero, unity],
  call .bindFirst [fn .stretchColumns, x 20],
  call .compose3 [x 21, fn .decrement, fn .height],
  call .bindLast [fn .beside, x 6],
  call .compose [x 23, x 22],
  call .bindFirst [fn .stretchColumns, x 6],
  call .compose [x 25, fn .height],
  call .fork [fn .above, x 24, fn .rotateRight],
  call .fork [fn .above, x 26, x 27],
  call .subtract [x 1, four],
  call .iterate [x 28, x 29],
  callResult 30 [x 19]]

def task29623171 : Program := [
  call .leastColor [input],
  call .range [zero, nine, four],
  call .product [x 2, x 2],
  call .bindLast [fn .add, three],
  call .bindLast [fn .range, one],
  call .fork [x 5, fn .identity, x 4],
  call .compose [x 6, fn .first],
  call .compose [x 6, fn .last],
  call .fork [fn .product, x 7, x 8],
  call .bindLast [fn .countColor, x 1],
  call .bindLast [fn .objectOn, input],
  call .compose [x 10, x 11],
  call .map [x 9, x 3],
  call .greatestKey [x 13, x 12],
  call .hasResult [x 12, x 14],
  call .compose [fn .not, x 15],
  call .filterFlatten [x 13, x 15],
  call .filterFlatten [x 13, x 16],
  call .fill [input, x 1, x 17],
  call .fill [x 19, zero, x 18]]

def task29c11459 : Program := [
  call .leftHalf [input],
  call .rightHalf [input],
  call .objects [x 2, yes, no, yes],
  call .objects [x 1, yes, no, yes],
  call .compose [fn .rowThrough, fn .center],
  call .fork [fn .recolor, fn .colorOf, x 5],
  call .mapFlatten [x 6, x 4],
  call .paint [x 1, x 7],
  call .mapFlatten [x 6, x 3],
  call .paint [input, x 9],
  call .objects [x 8, yes, no, yes],
  call .map [fn .upperRight, x 11],
  call .shift [x 12, right],
  call .flatten [x 11],
  call .paint [x 10, x 14],
  call .fill [x 15, five, x 13]]

def task29ec7d0e : Program := [
  call .height [input],
  call .width [input],
  call .colorClasses [input],
  call .selectColor [x 3, zero],
  call .without [x 3, x 4],
  call .flatten [x 5],
  call .makePair [x 1, one],
  call .makePair [one, x 2],
  call .decrement [x 1],
  call .decrement [x 2],
  call .downBy [x 10],
  call .rightBy [x 9],
  call .crop [input, x 11, x 8],
  call .crop [input, x 12, x 7],
  call .gridObject [x 14],
  call .gridObject [x 13],
  call .rowPeriod [x 15],
  call .columnPeriod [x 16],
  call .makePair [x 17, x 18],
  call .bindFirst [fn .multiply, x 19],
  call .neighbors [origin],
  call .mapFlatten [fn .neighbors, x 21],
  call .map [x 20, x 22],
  call .bindFirst [fn .shift, x 6],
  call .mapFlatten [x 24, x 23],
  call .paint [input, x 25]]

def task2bcee788 : Program := [
  call .mostColor [input],
  call .objects [input, yes, no, yes],
  call .replaceColor [input, x 1, three],
  call .greatestBy [x 2, fn .size],
  call .leastBy [x 2, fn .size],
  call .direction [x 4, x 5],
  call .first [x 6],
  call .last [x 6],
  call .cropTo [x 4, x 3],
  call .isHorizontalLine [x 5],
  call .flipRows [x 9],
  call .flipColumns [x 9],
  call .choose [x 10, x 11, x 12],
  call .choose [x 10, x 7, zero],
  call .choose [x 10, zero, x 8],
  call .gridObject [x 13],
  call .hasResult [fn .first, three],
  call .compose [fn .not, x 17],
  call .filter [x 16, x 18],
  call .upperLeft [x 4],
  call .shape [x 4],
  call .makePair [x 14, x 15],
  call .multiply [x 21, x 22],
  call .add [x 20, x 23],
  call .shift [x 19, x 24],
  call .paint [x 3, x 25]]

def task2bee17df : Program := [
  call .height [input],
  call .rotateRight [input],
  call .subtract [x 1, two],
  call .range [zero, x 1, one],
  call .bindLast [fn .countColor, zero],
  call .hasResult [x 5, x 3],
  call .bindLast [fn .splitRows, x 1],
  call .bindFirst [fn .map, x 6],
  call .compose [x 8, x 7],
  callResult 9 [input],
  call .zip [x 4, x 10],
  call .filter [x 11, fn .last],
  call .mapFlatten [fn .rowThrough, x 12],
  callResult 9 [x 2],
  call .zip [x 14, x 4],
  call .filter [x 15, fn .first],
  call .mapFlatten [fn .columnThrough, x 16],
  call .makePair [x 13, x 17],
  call .flatten [x 18],
  call .fillUnder [input, three, x 19]]

def task2c608aff : Program := [
  call .leastColor [input],
  call .objects [input, yes, no, yes],
  call .greatestBy [x 2, fn .size],
  call .locations [x 3],
  call .locationsOf [input, x 1],
  call .productMap [fn .line, x 4, x 5],
  call .fork [fn .either, fn .isVerticalLine, fn .isHorizontalLine],
  call .filterFlatten [x 6, x 7],
  call .fillUnder [input, x 1, x 8]]

def task2dc579da : Program := [
  call .splitRows [input, two],
  call .bindLast [fn .splitColumns, two],
  call .mapFlatten [x 2, x 1],
  call .greatestBy [x 3, fn .colorTotal]]

def task2dd70a9a : Program := [
  call .locationsOf [input, two],
  call .locationsOf [input, three],
  call .isVerticalLine [x 1],
  call .isVerticalLine [x 2],
  call .center [x 1],
  call .choose [x 4, fn .topRow, fn .rightColumn],
  callResult 6 [x 1],
  callResult 6 [x 2],
  call .greater [x 7, x 8],
  call .both [x 4, x 9],
  call .choose [x 10, fn .bottomRow, fn .topRow],
  callResult 11 [x 2],
  call .choose [x 4, fn .leftColumn, fn .rightColumn],
  callResult 13 [x 2],
  call .makePair [x 12, x 14],
  call .other [x 2, x 15],
  call .subtract [x 15, x 16],
  call .ray [x 15, x 17],
  call .fillUnder [input, one, x 18],
  call .objects [x 19, yes, no, no],
  call .selectColor [x 20, one],
  call .bindLast [fn .isAdjacent, x 2],
  call .filter [x 21, x 22],
  call .without [x 21, x 23],
  call .flatten [x 24],
  call .erasePatch [x 19, x 25],
  call .ray [x 5, down],
  call .ray [x 5, up],
  call .ray [x 5, left],
  call .ray [x 5, right],
  call .union [x 27, x 28],
  call .union [x 29, x 30],
  call .choose [x 3, x 31, x 32],
  call .locationsOf [x 26, one],
  call .singleton [x 15],
  call .bindLast [fn .distance, x 35],
  call .compose [x 36, fn .singleton],
  call .greatestBy [x 34, x 37],
  call .singleton [x 38],
  call .gravitate [x 39, x 33],
  call .awayFromZero [x 40],
  call .add [x 38, x 41],
  call .line [x 38, x 42],
  call .fill [x 26, one, x 43],
  call .line [x 42, x 5],
  call .fillUnder [x 44, one, x 45],
  call .replaceColor [x 46, one, three]]

def task2dee498d : Program := [
  call .splitColumns [input, three],
  call .first [x 1]]

/-- The programs of this module by the identifiers of their tasks. -/
def shelf2 : List (String × Program) := [
  ("2013d3e2", task2013d3e2),
  ("2204b7a8", task2204b7a8),
  ("22168020", task22168020),
  ("22233c11", task22233c11),
  ("2281f1f4", task2281f1f4),
  ("228f6490", task228f6490),
  ("22eb0ac0", task22eb0ac0),
  ("234bbc79", task234bbc79),
  ("23581191", task23581191),
  ("239be575", task239be575),
  ("23b5c85d", task23b5c85d),
  ("253bf280", task253bf280),
  ("25d487eb", task25d487eb),
  ("25d8a9c8", task25d8a9c8),
  ("25ff71a9", task25ff71a9),
  ("264363fd", task264363fd),
  ("272f95fa", task272f95fa),
  ("27a28665", task27a28665),
  ("28bf18c6", task28bf18c6),
  ("28e73c20", task28e73c20),
  ("29623171", task29623171),
  ("29c11459", task29c11459),
  ("29ec7d0e", task29ec7d0e),
  ("2bcee788", task2bcee788),
  ("2bee17df", task2bee17df),
  ("2c608aff", task2c608aff),
  ("2dc579da", task2dc579da),
  ("2dd70a9a", task2dd70a9a),
  ("2dee498d", task2dee498d)]

end Task

end GridPuzzle
