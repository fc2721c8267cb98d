import GridPuzzle.Value.Access

/-!
Arithmetic on values. Besides numbers, tuples can be joined and repeated, and sets can be subtracted and
intersected. The quotient is rounded down, and the remainder has the sign of the divisor.
-/

namespace GridPuzzle

/-- The bits that two integers share, a negative one having ones without end. -/
def commonBits : Int → Int → Int
  | .ofNat m, .ofNat n => .ofNat (m &&& n)
  | .ofNat m, .negSucc n => .ofNat (m ^^^ (m &&& n))
  | .negSucc m, .ofNat n => .ofNat (n ^^^ (m &&& n))
  | .negSucc m, .negSucc n => .negSucc (m ||| n)

namespace Value

/-- An operation on the numbers that two values count as. -/
def onNumbers (op : Int → Int → Int) (a b : Value) : Outcome Value :=
  return .int (op (← a.number) (← b.number))

def add : Value → Value → Outcome Value
  | .tuple xs, .tuple ys => .ok (.tuple (xs ++ ys))
  | a, b => onNumbers (· + ·) a b

def sub : Value → Value → Outcome Value
  | .set xs, .set ys => .ok (.set (xs.filter (!ys.contains ·)))
  | a, b => onNumbers (· - ·) a b

/-- The items of a list, `count` times over. -/
def repeated (count : Int) (xs : List Value) : List Value :=
  (List.replicate count.toNat xs).flatten

def mul : Value → Value → Outcome Value
  | .tuple xs, b => return .tuple (repeated (← b.number) xs)
  | a, .tuple ys => return .tuple (repeated (← a.number) ys)
  | a, b => onNumbers (· * ·) a b

/-- The quotient of two numbers, rounded down. -/
def div (a b : Value) : Outcome Value := do
  let m ← a.number
  let n ← b.number
  if n = 0 then throw .divisionByZero
  return .int (m.fdiv n)

/-- The remainder that belongs to the quotient rounded down. -/
def mod (a b : Value) : Outcome Value := do
  let m ← a.number
  let n ← b.number
  if n = 0 then throw .divisionByZero
  return .int (m.fmod n)

def neg (a : Value) : Outcome Value :=
  return .int (-(← a.number))

/-- What two values share: the members of two sets, or the bits of two numbers. Of equal members those of
the smaller set stay, or of the right one. -/
def common : Value → Value → Outcome Value
  | .set xs, .set ys =>
    .ok (.set (if ys.length > xs.length then xs.filter (ys.contains ·) else ys.filter (xs.contains ·)))
  | .bool a, .bool b => .ok (.bool (a && b))
  | a, b => onNumbers commonBits a b

mutual

/-- Whether one value is smaller than another. Numbers compare as numbers, tuples by the first items that
differ, and a set is smaller than those that properly contain it; nothing else compares. -/
def lt : Value → Value → Outcome Bool
  | .tuple xs, .tuple ys => ltItems xs ys
  | .set xs, .set ys => .ok (xs.length < ys.length && xs.all (ys.contains ·))
  | a, b => return decide ((← a.number) < (← b.number))

/-- The comparison of tuples, on their items. -/
def ltItems : List Value → List Value → Outcome Bool
  | _, [] => .ok false
  | [], _ :: _ => .ok true
  | x :: xs, y :: ys => if x == y then ltItems xs ys else lt x y

end

/-- The numbers from one value up to, and without, another. -/
def upTo (start stop : Value) : Outcome (List Int) :=
  return Table.upTo (← start.number) (← stop.number)

end Value

end GridPuzzle
