import GridPuzzle.Number
import GridPuzzle.Function
import GridPuzzle.Patch.Outline
import GridPuzzle.Patch.Period
import GridPuzzle.Grid.Cell
import GridPuzzle.Grid.Line
import GridPuzzle.Grid.Objects
import GridPuzzle.Grid.Paint
import GridPuzzle.Grid.Part
import GridPuzzle.Grid.Scale

/-!
What the primitives compute. Each is an operation on as many arguments as its arity says; a different
number of arguments is a fault.
-/

namespace GridPuzzle

namespace Primitive

/-- An operation on a fixed number of arguments. -/
inductive Meaning where
  | unary (op : Value → Eval Value)
  | binary (op : Value → Value → Eval Value)
  | ternary (op : Value → Value → Value → Eval Value)
  | quaternary (op : Value → Value → Value → Value → Eval Value)

/-- The result of an operation on a list of arguments. -/
def Meaning.run : Meaning → List Value → Eval Value
  | .unary op, [a] => op a
  | .binary op, [a, b] => op a b
  | .ternary op, [a, b, c] => op a b c
  | .quaternary op, [a, b, c, d] => op a b c d
  | _, _ => throw .wrongArity

/-- A truth value as the result of a test. -/
def test (x : Outcome Bool) : Eval Value :=
  return .bool (← x)

/-- A number as the result of a measurement. -/
def measure (x : Outcome Int) : Eval Value :=
  return .int (← x)

/-- The operation of a primitive, which may call functions. -/
def meaning (call : Caller) : Primitive → Meaning
  | .identity => .unary fun v => return v
  | .add => .binary fun a b => Number.add a b
  | .subtract => .binary fun a b => Number.subtract a b
  | .multiply => .binary fun a b => Number.multiply a b
  | .divide => .binary fun a b => Number.divide a b
  | .negate => .unary fun v => Number.negate v
  | .isEven => .unary fun v => Number.isEven v
  | .double => .unary fun v => Number.double v
  | .halve => .unary fun v => Number.halve v
  | .not => .unary fun v => return .bool (!v.truthy)
  | .equal => .binary fun a b => return .bool (a == b)
  | .member => .binary fun v container => test (Container.member v container)
  | .union => .binary fun a b => Container.union a b
  | .intersect => .binary fun a b => Value.common a b
  | .without => .binary fun a b => Container.without a b
  | .distinct => .unary fun v => Container.distinct v
  | .sortBy => .binary fun container function => Function.sortBy call container function
  | .replicate => .binary fun v count => Container.replicate v count
  | .greater => .binary fun a b => test (Value.lt b a)
  | .size => .unary fun v => return .int (← v.size)
  | .flatten => .unary fun v => Container.flatten v
  | .maximum => .unary fun v => Container.maximum v
  | .minimum => .unary fun v => Container.minimum v
  | .greatestKey => .binary fun container function =>
    Function.bestKey call Value.greatest container function
  | .leastKey => .binary fun container function => Function.bestKey call Value.least container function
  | .greatestBy => .binary fun container function =>
    Function.bestBy call Value.greatest container function
  | .leastBy => .binary fun container function => Function.bestBy call Value.least container function
  | .mostCommon => .unary fun v => Container.mostCommon v
  | .leastCommon => .unary fun v => Container.leastCommon v
  | .singleton => .unary fun v => return .setOf [v]
  | .both => .binary fun a b => return if a.truthy then b else a
  | .either => .binary fun a b => return if a.truthy then a else b
  | .increment => .unary fun v => Number.increment v
  | .decrement => .unary fun v => Number.decrement v
  | .awayFromZero => .unary fun v => Number.awayFromZero v
  | .sign => .unary fun v => Number.sign v
  | .isPositive => .unary fun v => Number.isPositive v
  | .downBy => .unary fun v => return Number.downBy v
  | .rightBy => .unary fun v => return Number.rightBy v
  | .filter => .binary fun container condition => Function.filter call container condition
  | .filterFlatten => .binary fun container condition => Function.filterFlatten call container condition
  | .findFirst => .binary fun container condition => Function.findFirst call container condition
  | .toTuple => .unary fun v => Container.toTuple v
  | .first => .unary fun v => v.head
  | .last => .unary fun v => Container.last v
  | .insert => .binary fun v container => Container.insert v container
  | .erase => .binary fun v container => Container.erase v container
  | .other => .binary fun container v => Container.other container v
  | .range => .ternary fun start stop step => Number.range start stop step
  | .makePair => .binary fun a b => return .pair a b
  | .product => .binary fun a b => Container.product a b
  | .zip => .binary fun a b => Container.zip a b
  | .choose => .ternary fun condition a b => return if condition.truthy then a else b
  | .compose => .binary Function.compose
  | .compose3 => .ternary Function.compose3
  | .hasResult => .binary Function.hasResult
  | .bindLast => .binary Function.bindLast
  | .bindFirst => .binary Function.bindFirst
  | .iterate => .binary Function.iterate
  | .fork => .ternary Function.fork
  | .map => .binary fun function container => Function.map call function container
  | .mapFunctions => .binary fun functions v => Function.mapFunctions call functions v
  | .mapFlatten => .binary fun function container => Function.mapFlatten call function container
  | .zipMap => .ternary fun function a b => Function.zipMap call function a b
  | .zipMapFlatten => .ternary fun function a b => Function.zipMapFlatten call function a b
  | .productMap => .ternary fun function a b => Function.productMap call function a b
  | .mostColor => .unary fun element => Grid.mostColor element
  | .leastColor => .unary fun element => Grid.leastColor element
  | .height => .unary fun piece => measure (Patch.height piece)
  | .width => .unary fun piece => measure (Patch.width piece)
  | .shape => .unary fun piece => Patch.shape piece
  | .isTall => .unary fun piece => test (Patch.isTall piece)
  | .countColor => .binary fun element color => Grid.countColor element color
  | .selectColor => .binary fun objects color => Grid.selectColor objects color
  | .selectSize => .binary fun container size => Grid.selectSize container size
  | .allLocations => .unary fun grid => Grid.allLocations grid
  | .locationsOf => .binary fun grid color => Grid.locationsOf grid color
  | .upperLeft => .unary fun patch => Patch.upperLeft patch
  | .upperRight => .unary fun patch => Patch.upperRight patch
  | .lowerLeft => .unary fun patch => Patch.lowerLeft patch
  | .lowerRight => .unary fun patch => Patch.lowerRight patch
  | .crop => .ternary fun grid start dimensions => Grid.crop grid start dimensions
  | .locations => .unary fun patch => Patch.locations patch
  | .recolor => .binary fun color patch => Patch.recolor color patch
  | .shift => .binary fun patch vector => Patch.shift patch vector
  | .toOrigin => .unary fun patch => Patch.toOrigin patch
  | .sideNeighbors => .unary fun place => Location.sideNeighbors place
  | .cornerNeighbors => .unary fun place => Location.cornerNeighbors place
  | .neighbors => .unary fun place => Location.neighbors place
  | .objects => .quaternary fun grid oneColor acrossCorners withoutBackground =>
    Grid.objects grid oneColor acrossCorners withoutBackground
  | .colorClasses => .unary fun grid => Grid.colorClasses grid
  | .foregroundClasses => .unary fun grid => Grid.foregroundClasses grid
  | .topRow => .unary fun patch => Patch.topRow patch
  | .bottomRow => .unary fun patch => Patch.bottomRow patch
  | .leftColumn => .unary fun patch => Patch.leftColumn patch
  | .rightColumn => .unary fun patch => Patch.rightColumn patch
  | .isSquare => .unary fun piece => test (Patch.isSquare piece)
  | .isVerticalLine => .unary fun patch => test (Patch.isVerticalLine patch)
  | .isHorizontalLine => .unary fun patch => test (Patch.isHorizontalLine patch)
  | .sharesRow => .binary fun a b => test (Patch.sharesRow a b)
  | .sharesColumn => .binary fun a b => test (Patch.sharesColumn a b)
  | .distance => .binary fun a b => measure (Patch.distance a b)
  | .isAdjacent => .binary fun a b => test (Patch.isAdjacent a b)
  | .touchesBorder => .binary fun patch grid => test (Patch.touchesBorder patch grid)
  | .centroid => .unary fun patch => Patch.centroid patch
  | .palette => .unary fun element => Grid.palette element
  | .colorTotal => .unary fun element => Grid.colorTotal element
  | .colorOf => .unary fun object => Grid.colorOf object
  | .objectOn => .binary fun patch grid => Grid.objectOn patch grid
  | .gridObject => .unary fun grid => Grid.gridObject grid
  | .rotateRight => .unary fun grid => Grid.rotateRight grid
  | .rotateHalf => .unary fun grid => Grid.rotateHalf grid
  | .rotateLeft => .unary fun grid => Grid.rotateLeft grid
  | .flipRows => .unary fun piece => Grid.flipRows piece
  | .flipColumns => .unary fun piece => Grid.flipColumns piece
  | .transpose => .unary fun piece => Grid.transpose piece
  | .antiTranspose => .unary fun piece => Grid.antiTranspose piece
  | .fill => .ternary fun grid color patch => Grid.fill grid color patch
  | .paint => .binary fun grid object => Grid.paint grid object
  | .fillUnder => .ternary fun grid color patch => Grid.fillUnder grid color patch
  | .paintUnder => .binary fun grid object => Grid.paintUnder grid object
  | .stretchColumns => .binary fun grid factor => Grid.stretchColumns grid factor
  | .stretchRows => .binary fun grid factor => Grid.stretchRows grid factor
  | .enlarge => .binary fun element factor => Grid.enlarge element factor
  | .shrink => .binary fun grid factor => Grid.shrink grid factor
  | .beside => .binary fun a b => Grid.beside a b
  | .above => .binary fun a b => Grid.above a b
  | .cropTo => .binary fun patch grid => Grid.cropTo patch grid
  | .splitColumns => .binary fun grid count => Grid.splitColumns grid count
  | .splitRows => .binary fun grid count => Grid.splitRows grid count
  | .agreeing => .ternary fun a b fallback => Grid.agreeing a b fallback
  | .replaceColor => .ternary fun grid replaced replacement =>
    Grid.replaceColor grid replaced replacement
  | .swapColors => .ternary fun grid a b => Grid.swapColors grid a b
  | .center => .unary fun patch => Patch.center patch
  | .direction => .binary fun a b => Patch.direction a b
  | .cellAt => .binary fun grid place => Grid.cellAt grid place
  | .canvas => .binary fun color dimensions => Grid.canvas color dimensions
  | .corners => .unary fun patch => Patch.corners patch
  | .line => .binary fun a b => Patch.line a b
  | .erasePatch => .binary fun grid patch => Grid.erasePatch grid patch
  | .trim => .unary fun grid => Grid.trim grid
  | .move => .ternary fun grid object vector => Grid.move grid object vector
  | .topHalf => .unary fun grid => Grid.topHalf grid
  | .bottomHalf => .unary fun grid => Grid.bottomHalf grid
  | .leftHalf => .unary fun grid => Grid.leftHalf grid
  | .rightHalf => .unary fun grid => Grid.rightHalf grid
  | .columnThrough => .unary fun place => Location.columnThrough place
  | .rowThrough => .unary fun place => Location.rowThrough place
  | .boundingBox => .unary fun patch => Patch.boundingBox patch
  | .boxRest => .unary fun patch => Patch.boxRest patch
  | .gravitate => .binary fun source destination => Patch.gravitate source destination
  | .innerRing => .unary fun patch => Patch.innerRing patch
  | .outerRing => .unary fun patch => Patch.outerRing patch
  | .ring => .unary fun patch => Patch.ring patch
  | .ray => .binary fun start direction => Patch.ray start direction
  | .occurrences => .binary fun grid object => Grid.occurrences grid object
  | .uniformLines => .unary fun grid => Grid.uniformLines grid
  | .dropUniformLines => .unary fun grid => Grid.dropUniformLines grid
  | .columnPeriod => .unary fun object => Patch.columnPeriod object
  | .rowPeriod => .unary fun object => Patch.rowPeriod object

/-- The result of a primitive on a list of arguments. -/
def run (call : Caller) (p : Primitive) (args : List Value) : Eval Value :=
  (p.meaning call).run args

end Primitive

end GridPuzzle
