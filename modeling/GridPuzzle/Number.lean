import GridPuzzle.Value.Arithmetic

/-!
Arithmetic of numbers and of pairs. An operation on a number works on each part of a pair, and an
operation on two numbers works between parts of two pairs, or between a number and each part of a pair.
-/

namespace GridPuzzle

namespace Number

/-- An operation on a number, or else on the first two items of a tuple. -/
def each (op : Value → Outcome Value) (v : Value) : Outcome Value :=
  match v.number? with
  | some _ => op v
  | none => do return .pair (← op (← v.nth 0)) (← op (← v.nth 1))

/-- An operation on two numbers, part by part where one of them is a tuple. -/
def between (op : Value → Value → Outcome Value) (a b : Value) : Outcome Value :=
  match a.number?, b.number?, a, b with
  | some _, some _, _, _ => op a b
  | _, _, .tuple _, .tuple _ => do
    return .pair (← op (← a.nth 0) (← b.nth 0)) (← op (← a.nth 1) (← b.nth 1))
  | some _, _, _, .tuple _ => do return .pair (← op a (← b.nth 0)) (← op a (← b.nth 1))
  | _, _, _, _ => do return .pair (← op (← a.nth 0) b) (← op (← a.nth 1) b)

/-- An operation that takes a number to a number. -/
def onNumber (f : Int → Int) (v : Value) : Outcome Value :=
  return .int (f (← v.number))

def add : Value → Value → Outcome Value := between Value.add

def subtract : Value → Value → Outcome Value := between Value.sub

def multiply : Value → Value → Outcome Value := between Value.mul

/-- The quotient, rounded down. -/
def divide : Value → Value → Outcome Value := between Value.div

def negate : Value → Outcome Value := each Value.neg

def double : Value → Outcome Value := each (Value.mul · (.int 2))

/-- One half, rounded down. -/
def halve : Value → Outcome Value := each (onNumber (·.fdiv 2))

def increment : Value → Outcome Value := each (onNumber (· + 1))

def decrement : Value → Outcome Value := each (onNumber (· - 1))

/-- One step further away from zero; zero stays. -/
def awayFromZero : Value → Outcome Value :=
  each (onNumber fun n => if n = 0 then 0 else if 0 < n then n + 1 else n - 1)

def sign : Value → Outcome Value :=
  each (onNumber fun n => if n = 0 then 0 else if 0 < n then 1 else -1)

def isEven (v : Value) : Outcome Value :=
  return .bool ((← v.number).fmod 2 == 0)

def isPositive (v : Value) : Outcome Value :=
  return .bool (decide (0 < (← v.number)))

/-- The vector that leads down. -/
def downBy (v : Value) : Value :=
  .pair v (.int 0)

/-- The vector that leads to the right. -/
def rightBy (v : Value) : Value :=
  .pair (.int 0) v

/-- The numbers from `start` to `stop`, without `stop`, in steps of `step`. -/
def range (start stop step : Value) : Outcome Value := do
  let first ← start.number
  let bound ← stop.number
  let stride ← step.number
  if stride = 0 then throw .zeroStep
  return .tuple ((Table.range first bound stride).map .int)

end Number

end GridPuzzle
