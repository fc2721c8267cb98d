import GridPuzzle.Value.Arithmetic

/-!
Choosing and sorting by a key. A key is computed by an arbitrary computation, and two keys need not
compare, so both may fail; keys and comparisons take place in the order of the items, and the first
failure counts.
-/

namespace GridPuzzle

namespace Value

/-- A rule by which one key beats the best key so far. -/
abbrev Rule := Value → Value → Outcome Bool

/-- A greater key wins. -/
def greatest : Rule := fun key best => lt best key

/-- A smaller key wins. -/
def least : Rule := fun key best => lt key best

section

variable {m : Type → Type} [Monad m] [MonadLiftT Outcome m] {α : Type}

/-- The best of `best` and the items of a list, with its key. An item replaces the best so far only when
its key beats that key, so the first of several equally good items wins. -/
def bestFrom (rule : Rule) (key : α → m Value) (best : α) (bestKey : Value) : List α → m (α × Value)
  | [] => pure (best, bestKey)
  | x :: xs => do
    let k ← key x
    if ← liftM (rule k bestKey) then bestFrom rule key x k xs else bestFrom rule key best bestKey xs

/-- The best item of a list, with its key; there is none in an empty list. -/
def best? (rule : Rule) (key : α → m Value) : List α → m (Option (α × Value))
  | [] => pure none
  | x :: xs => do
    let k ← key x
    return some (← bestFrom rule key x k xs)

end

/-- The best item of a list that must not be empty. -/
def best {α : Type} (rule : Rule) (key : α → Outcome Value) (xs : List α) : Outcome (α × Value) := do
  Outcome.ofOption .noChoice (← best? rule key xs)

/-- The best of the keys of a list that must not be empty. -/
def bestKey {α : Type} (rule : Rule) (key : α → Outcome Value) (xs : List α) : Outcome Value :=
  return (← best rule key xs).2

/-- The better of two values, the first if neither is. -/
def better (rule : Rule) (a b : Value) : Outcome Value := do
  if ← rule b a then return b else return a

/-! ## Sorting -/

/-- An item with its key. -/
abbrev Keyed := Value × Value

/-- The items that continue a run after `last`, and the rest. A run is continued while `next` holds of
each key and the one before it. -/
def continueRun (next : Value → Value → Outcome Bool) (last : Keyed) :
    List Keyed → Outcome (List Keyed × List Keyed)
  | [] => return ([], [])
  | x :: xs => do
    if ← next last.1 x.1 then
      let (run, rest) ← continueRun next x xs
      return (x :: run, rest)
    else
      return ([], x :: xs)

/-- The longest initial part that is increasing, or else strictly decreasing and then turned round; and
the rest. -/
def firstRun : List Keyed → Outcome (List Keyed × List Keyed)
  | x :: y :: xs => do
    if ← lt y.1 x.1 then
      let (run, rest) ← continueRun (fun a b => lt b a) y xs
      return ((x :: y :: run).reverse, rest)
    else
      let (run, rest) ← continueRun (fun a b => return !(← lt b a)) y xs
      return (x :: y :: run, rest)
  | xs => return (xs, [])

/-- The place in `sorted`, between `low` and `high`, behind which no key is greater than `key`: found by
halving the part in question `fuel` times at most. -/
def insertionPlace (sorted : List Keyed) (key : Value) : Nat → Nat → Nat → Outcome Nat
  | 0, low, _ => return low
  | fuel + 1, low, high =>
    if low < high then
      let middle := low + (high - low) / 2
      match sorted[middle]? with
      | some x => do
        if ← lt key x.1 then insertionPlace sorted key fuel low middle
        else insertionPlace sorted key fuel (middle + 1) high
      | none => return low
    else return low

/-- A sorted list with one more item, behind those whose keys are not greater. -/
def insertSorted (sorted : List Keyed) (x : Keyed) : Outcome (List Keyed) := do
  let place ← insertionPlace sorted x.1 sorted.length 0 sorted.length
  return sorted.take place ++ x :: sorted.drop place

/-- The items in the order of their keys, those with equal keys in the order in which they came. -/
def sortKeyed (xs : List Keyed) : Outcome (List Value) := do
  let (run, rest) ← firstRun xs
  return (← rest.foldlM insertSorted run).map (·.2)

end Value

end GridPuzzle
