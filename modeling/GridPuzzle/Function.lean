import GridPuzzle.Container

/-!
Functions as values: the operations that build them, and those that call them on the items of containers.

An evaluation hands out serial numbers to the functions that it builds, and may fail. The operations here
do not know how a function is called; they are given a `Caller` for it.
-/

namespace GridPuzzle

/-- A computation that may build functions and may fail. Its state is the next serial number. -/
abbrev Eval := StateT Nat Outcome

/-- A way to call a function with arguments. -/
abbrev Caller := Value → List Value → Eval Value

namespace Eval

/-- A serial number that has not been given out before. -/
def fresh : Eval Nat :=
  modifyGet fun serial => (serial, serial + 1)

/-- The computation of one item of a traversal. If it runs out of items itself, this must not pass for the
end of the traversal. -/
def asItem {α : Type} (x : Eval α) : Eval α := fun serial =>
  match x serial with
  | .error .exhausted => .error .exhaustedInside
  | result => result

end Eval

namespace Function

/-! ## Building functions -/

def compose (outer inner : Value) : Eval Value :=
  return .compose (← Eval.fresh) outer inner

def compose3 (third second first : Value) : Eval Value :=
  return .compose3 (← Eval.fresh) third second first

def hasResult (function target : Value) : Eval Value :=
  return .hasResult (← Eval.fresh) function target

def fork (outer left right : Value) : Eval Value :=
  return .fork (← Eval.fresh) outer left right

/-- The number of arguments that remain when one argument of a function is fixed. A function of two or of
three arguments leaves one or two; any other is taken to have four. -/
def remaining (function : Value) : Outcome Nat :=
  match function.arity? with
  | some 2 => .ok 1
  | some 3 => .ok 2
  | some _ => .ok 3
  | none => .error .unsupported

def bindFirst (function fixed : Value) : Eval Value := do
  let rest ← remaining function
  return .bindFirst (← Eval.fresh) rest function fixed

def bindLast (function fixed : Value) : Eval Value := do
  let rest ← remaining function
  return .bindLast (← Eval.fresh) rest function fixed

/-- A function after `count` further rounds of itself. A call of it nests as deep as the count is large; the limit
that an interpreter sets to recursion is not modelled. -/
def composeTimes (function : Value) : Nat → Eval Value
  | 0 => return function
  | count + 1 => do compose function (← composeTimes function count)

/-- A function composed with itself, so that it is called `count` times. There is no end to taking one
away from a count below one. -/
def iterate (function count : Value) : Eval Value := do
  let n ← count.number
  if n < 1 then throw .tooDeep
  composeTimes function (n - 1).toNat

/-! ## Keys -/

section

variable (call : Caller)

/-- The key of an item: the item itself if there is no key function. -/
def key (function item : Value) : Eval Value :=
  match function with
  | .null => return item
  | _ => call function [item]

/-- The best item by a key, if there is one. -/
def bestBy? (rule : Value.Rule) (container function : Value) : Eval (Option Value) := do
  return (← Value.best? rule (key call function) (← container.items)).map (·.1)

/-- The best item by a key. -/
def bestBy (rule : Value.Rule) (container function : Value) : Eval Value := do
  Outcome.ofOption .noChoice (← bestBy? call rule container function)

/-- The key of the best item, or of zero if there is no item. -/
def bestKey (rule : Value.Rule) (container function : Value) : Eval Value := do
  call function [(← bestBy? call rule container function).getD (.int 0)]

/-- The items in the order of their keys. -/
def sortBy (container function : Value) : Eval Value := do
  let keyed ← (← container.items).mapM fun v => return (← key call function v, v)
  return .tuple (← Value.sortKeyed keyed)

/-! ## Traversals -/

/-- The items on which a condition holds. -/
def filter (container condition : Value) : Eval Value := do
  let kept ← (← container.items).filterM fun v => return (← Eval.asItem (call condition [v])).truthy
  return container.rebuild kept

def filterFlatten (container condition : Value) : Eval Value := do
  Container.flatten (← filter call container condition)

/-- The first item of a list on which a condition holds. -/
def firstWith (condition : Value) : List Value → Eval Value
  | [] => throw .exhausted
  | v :: vs => do
    if (← Eval.asItem (call condition [v])).truthy then return v else firstWith condition vs

def findFirst (container condition : Value) : Eval Value := do
  firstWith call condition (← container.items)

/-- The results of a function on the items. -/
def map (function container : Value) : Eval Value := do
  let results ← (← container.items).mapM fun v => Eval.asItem (call function [v])
  return container.rebuild results

def mapFlatten (function container : Value) : Eval Value := do
  Container.flatten (← map call function container)

/-- The results of several functions on one value. -/
def mapFunctions (functions v : Value) : Eval Value := do
  let results ← (← functions.items).mapM fun function => Eval.asItem (call function [v])
  return functions.rebuild results

/-- The results of a function on the items that stand at the same place of two containers. -/
def zipMap (function a b : Value) : Eval Value := do
  let pairs := (← a.items).zip (← b.items)
  return .tuple (← pairs.mapM fun (x, y) => Eval.asItem (call function [x, y]))

def zipMapFlatten (function a b : Value) : Eval Value := do
  Container.flatten (← zipMap call function a b)

/-- The results of a function on an item of `a` and an item of `b`. -/
def productMap (function a b : Value) : Eval Value := do
  let results ← (← b.items).mapM fun y => do
    (← a.items).mapM fun x => Eval.asItem (call function [x, y])
  return .setOf results.flatten

end

end Function

end GridPuzzle
