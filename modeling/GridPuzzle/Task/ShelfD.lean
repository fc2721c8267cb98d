import GridPuzzle.Program

/-!
Programs of the tasks whose identifiers begin with the digit d.
-/

namespace GridPuzzle

namespace Task

open Program

def taskd037b0a7 : Program := [
  call .objects [input, yes, no, yes],
  call .bindLast [fn .ray, down],
  call .compose [x 2, fn .center],
  call .fork [fn .recolor, fn .colorOf, x 3],
  call .mapFlatten [x 4, x 1],
  call .paint [input, x 5]]

def taskd06dbe63 : Program := [
  call .locationsOf [input, eight],
  call .center [x 1],
  call .line [origin, down],
  call .line [origin, zeroByTwo],
  call .union [x 3, x 4],
  call .subtract [x 2, twoByZero],
  call .shift [x 5, x 6],
  call .makePair [negTwo, two],
  call .range [zero, five, one],
  call .bindFirst [fn .multiply, x 8],
  call .map [x 10, x 9],
  call .bindFirst [fn .shift, x 7],
  call .mapFlatten [x 12, x 11],
  call .fill [input, five, x 13],
  call .rotateHalf [x 14],
  call .locationsOf [x 15, eight],
  call .center [x 16],
  call .subtract [x 17, x 6],
  call .shift [x 13, x 18],
  call .downBy [negTwo],
  call .shift [x 19, x 20],
  call .fill [x 15, five, x 21],
  call .rotateHalf [x 22]]

def taskd07ae81c : Program := [
  call .objects [input, yes, no, no],
  call .selectSize [x 1, one],
  call .map [fn .colorOf, x 2],
  call .without [x 1, x 2],
  call .map [fn .colorOf, x 4],
  call .first [x 5],
  call .last [x 5],
  call .locationsOf [input, x 6],
  call .locationsOf [input, x 7],
  call .bindLast [fn .ray, unity],
  call .bindLast [fn .ray, negUnity],
  call .bindLast [fn .ray, downLeft],
  call .bindLast [fn .ray, upRight],
  call .fork [fn .union, x 10, x 11],
  call .fork [fn .union, x 12, x 13],
  call .fork [fn .union, x 14, x 15],
  call .compose [x 16, fn .center],
  call .mapFlatten [x 17, x 2],
  call .intersect [x 8, x 18],
  call .intersect [x 9, x 18],
  call .first [x 2],
  call .colorOf [x 21],
  call .center [x 21],
  call .neighbors [x 23],
  call .objectOn [x 24, input],
  call .mostColor [x 25],
  call .other [x 3, x 22],
  call .equal [x 26, x 6],
  call .choose [x 28, x 22, x 27],
  call .choose [x 28, x 27, x 22],
  call .fill [input, x 29, x 19],
  call .fill [x 31, x 30, x 20]]

def taskd0f5fe59 : Program := [
  call .objects [input, yes, no, yes],
  call .size [x 1],
  call .makePair [x 2, x 2],
  call .canvas [zero, x 3],
  call .ray [origin, unity],
  call .fill [x 4, eight, x 5]]

def taskd10ecb37 : Program := [
  call .crop [input, origin, twoByTwo]]

def taskd13f3404 : Program := [
  call .objects [input, yes, no, yes],
  call .bindLast [fn .ray, unity],
  call .compose [x 2, fn .center],
  call .fork [fn .recolor, fn .colorOf, x 3],
  call .mapFlatten [x 4, x 1],
  call .makePair [six, six],
  call .canvas [zero, x 6],
  call .paint [x 7, x 5]]

def taskd22278a0 : Program := [
  call .allLocations [input],
  call .objects [input, yes, no, yes],
  call .fork [fn .multiply, fn .sign, fn .identity],
  call .bindFirst [fn .map, x 3],
  call .compose3 [fn .isEven, fn .maximum, x 4],
  call .bindFirst [fn .filter, x 1],
  call .fork [fn .add, fn .first, fn .last],
  call .bindLast [fn .erase, x 2],
  call .compose [fn .center, fn .last],
  call .fork [fn .subtract, fn .first, x 9],
  call .compose [x 5, x 10],
  call .bindFirst [fn .bindLast, fn .equal],
  call .bindFirst [fn .leastBy, x 2],
  call .compose3 [x 7, x 4, x 10],
  call .bindFirst [fn .bindFirst, fn .makePair],
  call .bindFirst [fn .bindLast, fn .makePair],
  call .bindFirst [fn .compose, x 11],
  call .bindFirst [fn .compose, x 14],
  call .compose [x 18, x 15],
  call .compose [x 18, x 16],
  call .compose [x 13, x 19],
  call .bindLast [fn .compose, x 21],
  call .bindFirst [fn .bindFirst, fn .leastKey],
  call .bindLast [fn .compose, x 19],
  call .compose3 [x 24, x 23, x 8],
  call .bindFirst [fn .fork, fn .greater],
  call .fork [x 26, x 25, x 20],
  call .compose3 [x 6, x 17, x 16],
  call .compose3 [x 6, x 22, x 12],
  call .fork [fn .intersect, x 28, x 29],
  call .compose [x 6, x 27],
  call .fork [fn .intersect, x 30, x 31],
  call .fork [fn .recolor, fn .colorOf, x 32],
  call .mapFlatten [x 33, x 2],
  call .paint [input, x 34]]

def taskd23f8c26 : Program := [
  call .allLocations [input],
  call .width [input],
  call .halve [x 2],
  call .hasResult [fn .last, x 3],
  call .compose [fn .not, x 4],
  call .filter [x 1, x 5],
  call .fill [input, zero, x 6]]

def taskd2abd087 : Program := [
  call .objects [input, yes, no, yes],
  call .hasResult [fn .size, six],
  call .compose [fn .not, x 2],
  call .filterFlatten [x 1, x 2],
  call .filterFlatten [x 1, x 3],
  call .fill [input, two, x 4],
  call .fill [x 6, one, x 5]]

def taskd364b489 : Program := [
  call .locationsOf [input, one],
  call .shift [x 1, down],
  call .fill [input, eight, x 2],
  call .shift [x 1, up],
  call .fill [x 3, two, x 4],
  call .shift [x 1, right],
  call .fill [x 5, six, x 6],
  call .shift [x 1, left],
  call .fill [x 7, seven, x 8]]

def taskd406998b : Program := [
  call .flipColumns [input],
  call .locationsOf [x 1, five],
  call .compose [fn .isEven, fn .last],
  call .filter [x 2, x 3],
  call .fill [x 1, three, x 4],
  call .flipColumns [x 5]]

def taskd43fd935 : Program := [
  call .objects [input, yes, no, yes],
  call .locationsOf [input, three],
  call .selectSize [x 1, one],
  call .bindLast [fn .sharesColumn, x 2],
  call .bindLast [fn .sharesRow, x 2],
  call .fork [fn .either, x 4, x 5],
  call .filter [x 3, x 6],
  call .bindLast [fn .gravitate, x 2],
  call .fork [fn .add, fn .center, x 8],
  call .fork [fn .line, fn .center, x 9],
  call .fork [fn .recolor, fn .colorOf, x 10],
  call .mapFlatten [x 11, x 7],
  call .paint [input, x 12]]

def taskd4469b4b : Program := [
  call .palette [input],
  call .other [x 1, zero],
  call .equal [x 2, one],
  call .equal [x 2, two],
  call .choose [x 3, unity, twoByTwo],
  call .choose [x 4, right, x 5],
  call .fork [fn .union, fn .columnThrough, fn .rowThrough],
  callResult 7 [x 6],
  call .canvas [zero, threeByThree],
  call .fill [x 9, five, x 8]]

def taskd4a91cb9 : Program := [
  call .locationsOf [input, eight],
  call .locationsOf [input, two],
  call .first [x 1],
  call .first [x 2],
  call .last [x 3],
  call .first [x 4],
  call .makePair [x 6, x 5],
  call .line [x 7, x 3],
  call .line [x 7, x 4],
  call .union [x 8, x 9],
  call .fillUnder [input, four, x 10]]

def taskd4f3cd78 : Program := [
  call .locationsOf [input, five],
  call .boxRest [x 1],
  call .fill [input, eight, x 2],
  call .ring [x 1],
  call .without [x 4, x 1],
  call .direction [x 4, x 5],
  call .first [x 5],
  call .ray [x 7, x 6],
  call .fill [x 3, eight, x 8]]

def taskd511f180 : Program := [
  call .swapColors [input, five, eight]]

def taskd5d6de2d : Program := [
  call .objects [input, yes, no, yes],
  call .filter [x 1, fn .isSquare],
  call .without [x 1, x 2],
  call .compose [fn .boundingBox, fn .innerRing],
  call .mapFlatten [x 4, x 3],
  call .replaceColor [input, two, zero],
  call .fill [x 6, three, x 5]]

def taskd631b094 : Program := [
  call .palette [input],
  call .other [x 1, zero],
  call .locationsOf [input, x 2],
  call .size [x 3],
  call .makePair [one, x 4],
  call .canvas [x 2, x 5]]

def taskd687bc17 : Program := [
  call .objects [input, yes, no, yes],
  call .selectSize [x 1, one],
  call .without [x 1, x 2],
  call .map [fn .colorOf, x 3],
  call .bindLast [fn .member, x 4],
  call .compose [x 5, fn .colorOf],
  call .filter [x 2, x 6],
  call .bindFirst [fn .selectColor, x 3],
  call .compose3 [fn .first, x 8, fn .colorOf],
  call .fork [fn .gravitate, fn .identity, x 9],
  call .fork [fn .shift, fn .identity, x 10],
  call .flatten [x 2],
  call .mapFlatten [x 11, x 7],
  call .erasePatch [input, x 12],
  call .paint [x 14, x 13]]

def taskd6ad076f : Program := [
  call .objects [input, yes, no, yes],
  call .leastBy [x 1, fn .size],
  call .greatestBy [x 1, fn .size],
  call .sharesColumn [x 2, x 3],
  call .choose [x 4, down, right],
  call .choose [x 4, fn .topRow, fn .leftColumn],
  call .greatestKey [x 1, x 6],
  callResult 6 [x 2],
  call .equal [x 7, x 8],
  call .choose [x 9, negOne, one],
  call .multiply [x 5, x 10],
  call .innerRing [x 2],
  call .bindLast [fn .ray, x 11],
  call .mapFlatten [x 13, x 12],
  call .fillUnder [input, eight, x 14],
  call .objects [x 15, yes, no, yes],
  call .selectColor [x 16, eight],
  call .bindLast [fn .touchesBorder, input],
  call .filterFlatten [x 17, x 18],
  call .erasePatch [x 15, x 19]]

def taskd89b689b : Program := [
  call .objects [input, yes, no, yes],
  call .locationsOf [input, eight],
  call .selectSize [x 1, one],
  call .map [fn .singleton, x 2],
  call .bindFirst [fn .leastBy, x 4],
  call .bindFirst [fn .bindLast, fn .distance],
  call .compose [x 5, x 6],
  call .fork [fn .recolor, fn .colorOf, x 7],
  call .mapFlatten [x 8, x 3],
  call .flatten [x 3],
  call .erasePatch [input, x 10],
  call .paint [x 11, x 9]]

def taskd8c310e9 : Program := [
  call .objects [input, no, no, yes],
  call .first [x 1],
  call .columnPeriod [x 2],
  call .multiply [x 3, three],
  call .rightBy [x 3],
  call .rightBy [x 4],
  call .shift [x 2, x 5],
  call .shift [x 2, x 6],
  call .paint [input, x 7],
  call .paint [x 9, x 8]]

def taskd90796e8 : Program := [
  call .objects [input, no, no, yes],
  call .selectSize [x 1, two],
  call .bindFirst [fn .member, two],
  call .compose [x 3, fn .palette],
  call .filterFlatten [x 2, x 4],
  call .erasePatch [input, x 5],
  call .hasResult [fn .first, three],
  call .filter [x 5, x 7],
  call .fill [x 6, eight, x 8]]

def taskd9f24cd1 : Program := [
  call .locationsOf [input, two],
  call .locationsOf [input, five],
  call .productMap [fn .line, x 1, x 2],
  call .filterFlatten [x 3, fn .isVerticalLine],
  call .fillUnder [input, two, x 4],
  call .hasResult [fn .colorTotal, two],
  call .objects [x 5, no, no, yes],
  call .filter [x 7, x 6],
  call .without [x 7, x 8],
  call .selectColor [x 9, two],
  call .mapFlatten [fn .locations, x 10],
  call .map [fn .upperRight, x 8],
  call .shift [x 12, unity],
  call .bindLast [fn .ray, up],
  call .mapFlatten [x 14, x 13],
  call .fill [x 5, two, x 15],
  call .mapFlatten [fn .columnThrough, x 11],
  call .fill [x 16, two, x 17]]

def taskd9fac9be : Program := [
  call .palette [input],
  call .objects [input, yes, no, yes],
  call .greatestBy [x 2, fn .size],
  call .colorOf [x 3],
  call .erase [zero, x 1],
  call .other [x 5, x 4],
  call .canvas [x 6, unity]]

def taskdae9d2b5 : Program := [
  call .leftHalf [input],
  call .rightHalf [input],
  call .locationsOf [x 1, four],
  call .locationsOf [x 2, three],
  call .union [x 3, x 4],
  call .fill [x 1, six, x 5]]

def taskdb3e9e38 : Program := [
  call .locationsOf [input, seven],
  call .lowerRight [x 1],
  call .ray [x 2, upRight],
  call .ray [x 2, negUnity],
  call .union [x 3, x 4],
  call .bindLast [fn .ray, up],
  call .mapFlatten [x 6, x 5],
  call .last [x 2],
  call .bindLast [fn .subtract, x 8],
  call .compose3 [fn .isEven, x 9, fn .last],
  call .fill [input, eight, x 7],
  call .filter [x 7, x 10],
  call .fill [x 11, seven, x 12]]

def taskdb93a21d : Program := [
  call .objects [input, yes, yes, yes],
  call .locationsOf [input, nine],
  call .selectColor [x 1, nine],
  call .bindLast [fn .ray, down],
  call .mapFlatten [x 4, x 2],
  call .fillUnder [input, one, x 5],
  call .compose [fn .halve, fn .width],
  call .bindLast [fn .greater, one],
  call .compose [x 8, x 7],
  call .hasResult [x 7, three],
  call .iterate [fn .outerRing, two],
  call .iterate [fn .outerRing, three],
  call .mapFlatten [fn .outerRing, x 3],
  call .filter [x 3, x 9],
  call .filter [x 3, x 10],
  call .mapFlatten [x 11, x 14],
  call .mapFlatten [x 12, x 15],
  call .fill [x 6, three, x 13],
  call .fill [x 18, three, x 16],
  call .fill [x 19, three, x 17]]

def taskdbc1a6ce : Program := [
  call .locationsOf [input, one],
  call .product [x 1, x 1],
  call .fork [fn .line, fn .first, fn .last],
  call .map [x 3, x 2],
  call .fork [fn .either, fn .isVerticalLine, fn .isHorizontalLine],
  call .filterFlatten [x 4, x 5],
  call .fillUnder [input, eight, x 6]]

def taskdc0a314f : Program := [
  call .locationsOf [input, three],
  call .replaceColor [input, three, zero],
  call .transpose [x 2],
  call .zipMap [fn .zip, x 2, x 3],
  call .bindFirst [fn .map, fn .maximum],
  call .map [x 5, x 4],
  call .antiTranspose [x 6],
  call .zipMap [fn .zip, x 6, x 7],
  call .map [x 5, x 8],
  call .cropTo [x 1, x 9]]

def taskdc1df850 : Program := [
  call .objects [input, yes, no, yes],
  call .selectColor [x 1, two],
  call .mapFlatten [fn .outerRing, x 2],
  call .fill [input, one, x 3]]

def taskdc433765 : Program := [
  call .locationsOf [input, three],
  call .locationsOf [input, four],
  call .first [x 1],
  call .first [x 2],
  call .subtract [x 4, x 3],
  call .sign [x 5],
  call .recolor [three, x 1],
  call .move [input, x 7, x 6]]

def taskddf7fa4f : Program := [
  call .objects [input, yes, no, yes],
  call .selectSize [x 1, one],
  call .selectColor [x 1, five],
  call .product [x 2, x 3],
  call .fork [fn .sharesColumn, fn .first, fn .last],
  call .filter [x 4, x 5],
  call .compose [fn .colorOf, fn .first],
  call .fork [fn .recolor, x 7, fn .last],
  call .mapFlatten [x 8, x 6],
  call .paint [input, x 9]]

def taskde1cd16c : Program := [
  call .leastColor [input],
  call .objects [input, yes, no, no],
  call .selectSize [x 2, one],
  call .without [x 2, x 3],
  call .bindLast [fn .cropTo, input],
  call .map [x 5, x 4],
  call .bindLast [fn .countColor, x 1],
  call .greatestBy [x 6, x 7],
  call .mostColor [x 8],
  call .canvas [x 9, unity]]

def taskded97339 : Program := [
  call .locationsOf [input, eight],
  call .product [x 1, x 1],
  call .fork [fn .line, fn .first, fn .last],
  call .map [x 3, x 2],
  call .fork [fn .either, fn .isVerticalLine, fn .isHorizontalLine],
  call .filterFlatten [x 4, x 5],
  call .fillUnder [input, eight, x 6]]

/-- The programs of this module by the identifiers of their tasks. -/
def shelfD : List (String × Program) := [
  ("d037b0a7", taskd037b0a7),
  ("d06dbe63", taskd06dbe63),
  ("d07ae81c", taskd07ae81c),
  ("d0f5fe59", taskd0f5fe59),
  ("d10ecb37", taskd10ecb37),
  ("d13f3404", taskd13f3404),
  ("d22278a0", taskd22278a0),
  ("d23f8c26", taskd23f8c26),
  ("d2abd087", taskd2abd087),
  ("d364b489", taskd364b489),
  ("d406998b", taskd406998b),
  ("d43fd935", taskd43fd935),
  ("d4469b4b", taskd4469b4b),
  ("d4a91cb9", taskd4a91cb9),
  ("d4f3cd78", taskd4f3cd78),
  ("d511f180", taskd511f180),
  ("d5d6de2d", taskd5d6de2d),
  ("d631b094", taskd631b094),
  ("d687bc17", taskd687bc17),
  ("d6ad076f", taskd6ad076f),
  ("d89b689b", taskd89b689b),
  ("d8c310e9", taskd8c310e9),
  ("d90796e8", taskd90796e8),
  ("d9f24cd1", taskd9f24cd1),
  ("d9fac9be", taskd9fac9be),
  ("dae9d2b5", taskdae9d2b5),
  ("db3e9e38", taskdb3e9e38),
  ("db93a21d", taskdb93a21d),
  ("dbc1a6ce", taskdbc1a6ce),
  ("dc0a314f", taskdc0a314f),
  ("dc1df850", taskdc1df850),
  ("dc433765", taskdc433765),
  ("ddf7fa4f", taskddf7fa4f),
  ("de1cd16c", taskde1cd16c),
  ("ded97339", taskded97339)]

end Task

end GridPuzzle
