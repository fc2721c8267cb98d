import GridPuzzle.Evaluation

/-!
A survey of the arithmetic primitives: each is applied to the numbers around zero and to pairs of such a
number and its opposite.
-/

namespace GridPuzzle

namespace Survey

/-- The numbers of a survey, about half of them negative. There is always one. -/
def numbers (count : Int) : List Int :=
  match Table.upTo ((-count).fdiv 2) (count.fdiv 2) with
  | [] => [0]
  | vs => vs

/-- The results of a primitive on the arguments that several numbers give. -/
def row (vs : List Int) (p : Primitive) (args : Int → List Value) : Eval Value :=
  return .tuple (← vs.mapM fun v => apply (.prim p) (args v))

/-- A number and its opposite. -/
def opposites (v : Int) : Value :=
  .location v (-v)

/-- A number that is not zero: one in place of zero. -/
def divisor (v : Int) : Int :=
  if v = 0 then 1 else v

/-- The calls of the survey: primitives, and their arguments for a number. -/
def arithmeticCalls : List (Primitive × (Int → List Value)) :=
  let onNumber : List Primitive := [.negate, .double, .halve, .increment, .decrement, .awayFromZero,
    .sign, .isEven, .isPositive, .downBy, .rightBy, .identity, .not]
  let onPair : List Primitive :=
    [.negate, .double, .halve, .increment, .decrement, .awayFromZero, .sign]
  let mixed : List (Int → List Value) :=
    [fun v => [.int v, .int v], fun v => [opposites v, opposites v],
      fun v => [.int v, opposites v], fun v => [opposites v, .int v]]
  let alike : List (Int → List Value) :=
    [fun v => [.int v, .int v], fun v => [opposites v, opposites v]]
  let divided : List (Int → List Value) :=
    [fun v => [.int v, .int (divisor v)], fun v => [.int v, opposites (divisor v)],
      fun v => [opposites v, opposites (divisor v)], fun v => [opposites v, .int (divisor v)]]
  onNumber.map (·, fun v => [.int v]) ++ onPair.map (·, fun v => [opposites v]) ++
    [Primitive.add, .subtract, .multiply].flatMap (fun p => mixed.map (p, ·)) ++
    [Primitive.equal, .greater, .makePair, .both, .either].flatMap (fun p => alike.map (p, ·)) ++
    divided.map (.divide, ·) ++
    [(.choose, fun v => [.bool true, .int v, opposites v]),
      (.choose, fun v => [.bool false, .int v, opposites v])]

/-- The survey of the arithmetic primitives: for each call its results, number by number. -/
def arithmetic (count : Int) : Outcome Value :=
  (do return .tuple (← arithmeticCalls.mapM fun (p, args) => row (numbers count) p args) :
    Eval Value).run' 0

end Survey

end GridPuzzle
