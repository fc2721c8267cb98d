import GridPuzzle.Value

/-!
Equality of values, and sets.

`Value.compare` is a total preorder on values in which a truth value stands where its number stands, so
that `true` and `1` are equal, also inside tuples and sets. Equality of values is what it calls equal.
A set keeps its items strictly increasing in this order, hence two sets with equal members have equal
item lists; of two equal items the one that came first stays.
-/

namespace GridPuzzle

namespace Value

/-- The place of a value's kind among the kinds. -/
def rank : Value → Nat
  | .null => 0
  | .bool _ | .int _ => 1
  | .tuple _ => 2
  | .set _ => 3
  | .prim _ => 4
  | _ => 5

/-- The order of two values that are neither both tuples nor both sets. -/
def compareAtoms (a b : Value) : Ordering :=
  match a, b with
  | .int m, .int n => Ord.compare m n
  | .prim p, .prim q => Ord.compare p.ctorIdx q.ctorIdx
  | a, b =>
    match a.number?, b.number? with
    | some m, some n => Ord.compare m n
    | _, _ =>
      match a.serial?, b.serial? with
      | some s, some t => Ord.compare s t
      | _, _ => Ord.compare a.rank b.rank

mutual

/-- The order of two values. -/
def compare : Value → Value → Ordering
  | .tuple xs, .tuple ys => compareItems xs ys
  | .set xs, .set ys => compareItems xs ys
  | a, b => compareAtoms a b

/-- The order of two item lists: by the first items that differ, and a proper initial part comes first. -/
def compareItems : List Value → List Value → Ordering
  | [], [] => .eq
  | [], _ :: _ => .lt
  | _ :: _, [] => .gt
  | x :: xs, y :: ys => (compare x y).then (compareItems xs ys)

end

instance : BEq Value where
  beq a b := compare a b == .eq

/-- The value `a` stands before or beside `b`. -/
def le (a b : Value) : Bool :=
  compare a b != .gt

/-- An increasing list after `last`, without the items that equal the one before them. -/
def dropRepeats (last : Value) : List Value → List Value
  | [] => []
  | x :: xs => if last == x then dropRepeats last xs else x :: dropRepeats x xs

/-- The items of the set of the members of a list. -/
def canonical (xs : List Value) : List Value :=
  match xs.mergeSort le with
  | [] => []
  | x :: rest => x :: dropRepeats x rest

/-- The set of the members of a list. -/
def setOf (xs : List Value) : Value :=
  .set (canonical xs)

/-- The container of the given items that is of the same kind as another one. -/
def rebuild (like : Value) (items : List Value) : Value :=
  match like with
  | .tuple _ => .tuple items
  | _ => setOf items

end Value

end GridPuzzle
