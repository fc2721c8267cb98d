import GridPuzzle.Primitive

/-!
The values that programs compute with. One type holds them all, because the language decides only when
it runs which kind of value stands where: a grid is a tuple of tuples of numbers, a location is a pair
of numbers, an object is a set of pairs of a color and a location.

A function is either a primitive or was built from other functions while a program ran. A built function
carries a serial number, which is its identity: two functions built from the same parts at different
moments are different values.
-/

namespace GridPuzzle

/-- A value of the language. The items of a `set` stand in increasing order and without repetition, as
`Value.setOf` leaves them. -/
inductive Value where
  | null
  | bool (b : Bool)
  | int (n : Int)
  | tuple (items : List Value)
  | set (items : List Value)
  | prim (p : Primitive)
  /-- `inner`, then `outer`. -/
  | compose (serial : Nat) (outer inner : Value)
  /-- `first`, then `second`, then `third`. -/
  | compose3 (serial : Nat) (third second first : Value)
  /-- Whether the result of `function` equals `target`. -/
  | hasResult (serial : Nat) (function target : Value)
  /-- `function` with its first argument fixed; `rest` arguments are still to come. -/
  | bindFirst (serial : Nat) (rest : Nat) (function fixed : Value)
  /-- `function` with its last argument fixed; `rest` arguments are still to come. -/
  | bindLast (serial : Nat) (rest : Nat) (function fixed : Value)
  /-- `outer` on the results of `left` and `right`. -/
  | fork (serial : Nat) (outer left right : Value)
  deriving Inhabited

namespace Value

/-- A pair. -/
def pair (a b : Value) : Value :=
  .tuple [a, b]

/-- The pair of a row number and a column number. -/
def location (row column : Int) : Value :=
  .pair (.int row) (.int column)

/-- The number that a value counts as: a truth value counts as one or zero. -/
def number? : Value → Option Int
  | .int n => some n
  | .bool b => some (if b then 1 else 0)
  | _ => none

/-- The serial number of a built function. -/
def serial? : Value → Option Nat
  | .compose s _ _ | .compose3 s _ _ _ | .hasResult s _ _ | .bindFirst s _ _ _ | .bindLast s _ _ _
  | .fork s _ _ _ => some s
  | _ => none

/-- The number of arguments that a function takes; no other value has one. -/
def arity? : Value → Option Nat
  | .prim p => some p.arity
  | .compose .. | .compose3 .. | .hasResult .. | .fork .. => some 1
  | .bindFirst _ rest _ _ | .bindLast _ rest _ _ => some rest
  | _ => none

def isTuple : Value → Bool
  | .tuple _ => true
  | _ => false

/-- Whether a value counts as true: nothing, zero, false and what is empty do not. -/
def truthy : Value → Bool
  | .null => false
  | .bool b => b
  | .int n => n != 0
  | .tuple items | .set items => !items.isEmpty
  | _ => true

end Value

end GridPuzzle
