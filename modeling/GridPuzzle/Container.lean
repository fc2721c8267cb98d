import GridPuzzle.Value.Choice

/-!
Operations on containers, that is, on tuples and sets. Those that select or join items give a container
of the kind of the one they are applied to.
-/

namespace GridPuzzle

namespace Container

/-! ## Whole containers -/

def member (v container : Value) : Outcome Bool :=
  return (← container.items).contains v

/-- The items of both containers, in a container of the kind of the first. -/
def union (a b : Value) : Outcome Value := do
  let xs ← a.items
  return a.rebuild (xs ++ (← b.items))

/-- The items of `a` that are not in `b`. -/
def without (a b : Value) : Outcome Value := do
  let kept ← (← a.items).filterM fun v => return !(← member v b)
  return a.rebuild kept

/-- The items of the items. -/
def flatten (containers : Value) : Outcome Value := do
  let parts ← (← containers.items).mapM Value.items
  return containers.rebuild parts.flatten

/-- A tuple without the items that have occurred before. Only tuples can tell where an item occurs. -/
def distinct (v : Value) : Outcome Value :=
  match v with
  | .set (_ :: _) => .error .unsupported
  | _ => return .tuple (← v.items).eraseDups

/-- The pairs of an item of `a` and an item of `b`. -/
def product (a b : Value) : Outcome Value := do
  let pairs ← (← b.items).mapM fun y => return (← a.items).map (Value.pair · y)
  return .setOf pairs.flatten

/-- The pairs of items that stand at the same place, as far as the shorter container reaches. -/
def zip (a b : Value) : Outcome Value := do
  let xs ← a.items
  return .tuple (List.zipWith Value.pair xs (← b.items))

def toTuple (v : Value) : Outcome Value :=
  return .tuple (← v.items)

def replicate (v count : Value) : Outcome Value :=
  return .tuple (List.replicate (← count.number).toNat v)

/-! ## Single items -/

def last (v : Value) : Outcome Value := do
  Outcome.ofOption .noChoice (← v.items).getLast?

/-- A set with one more member; a member that is there already stays as it is. -/
def insert (v container : Value) : Outcome Value :=
  match container with
  | .set xs => .ok (.setOf (xs ++ [v]))
  | _ => .error .unsupported

/-- A container without the items that equal `v`. -/
def erase (v container : Value) : Outcome Value :=
  return container.rebuild ((← container.items).filter (!v == ·))

/-- The first item that differs from `v`. -/
def other (container v : Value) : Outcome Value := do
  (← erase v container).head

/-! ## Choosing by order and by frequency -/

/-- The greatest item, or zero if there is none. -/
def maximum (v : Value) : Outcome Value := do
  return ((← Value.best? Value.greatest Except.ok (← v.items)).map (·.1)).getD (.int 0)

/-- The least item, or zero if there is none. -/
def minimum (v : Value) : Outcome Value := do
  return ((← Value.best? Value.least Except.ok (← v.items)).map (·.1)).getD (.int 0)

/-- The value that occurs most often in a list. -/
def mostFrequent (xs : List Value) : Outcome Value :=
  match Value.canonical xs with
  | [] => .error .noChoice
  | v :: vs => .ok (vs.foldl (fun best v => if xs.count best < xs.count v then v else best) v)

/-- The value that occurs least often in a list. -/
def leastFrequent (xs : List Value) : Outcome Value :=
  match Value.canonical xs with
  | [] => .error .noChoice
  | v :: vs => .ok (vs.foldl (fun best v => if xs.count v < xs.count best then v else best) v)

/-- The items of a container that can count them, as only tuples can. -/
def countable (v : Value) : Outcome (List Value) := do
  let xs ← v.items
  if v.isTuple then return xs else throw .unsupported

def mostCommon (v : Value) : Outcome Value := do
  mostFrequent (← countable v)

def leastCommon (v : Value) : Outcome Value := do
  leastFrequent (← countable v)

end Container

end GridPuzzle
