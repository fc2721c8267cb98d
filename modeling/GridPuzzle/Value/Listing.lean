import GridPuzzle.Value.Order

/-!
The order in which the members of a set are listed when a value is shown: truth values before numbers, all
numbers before tuples, then sets, then primitives by name, then built functions by the number of their
arguments.
-/

namespace GridPuzzle

namespace Value

/-- The place of a value's kind in a listing. -/
def listingRank : Value → Nat
  | .null => 0
  | .bool _ => 1
  | .int _ => 2
  | .tuple _ => 3
  | .set _ => 4
  | .prim _ => 5
  | _ => 6

/-- The listing order of two values that are neither both tuples nor both sets. -/
def listingCompareAtoms (a b : Value) : Ordering :=
  match a, b with
  | .bool p, .bool q => Ord.compare p q
  | .int m, .int n => Ord.compare m n
  | .prim p, .prim q => Ord.compare p.name q.name
  | a, b => (Ord.compare a.listingRank b.listingRank).then (Ord.compare a.arity? b.arity?)

mutual

/-- The listing order of two values whose sets are listed. -/
def listingCompare : Value → Value → Ordering
  | .tuple xs, .tuple ys => listingCompareItems xs ys
  | .set xs, .set ys => listingCompareItems xs ys
  | a, b => listingCompareAtoms a b

/-- The listing order of two item lists. -/
def listingCompareItems : List Value → List Value → Ordering
  | [], [] => .eq
  | [], _ :: _ => .lt
  | _ :: _, [] => .gt
  | x :: xs, y :: ys => (listingCompare x y).then (listingCompareItems xs ys)

end

mutual

/-- A value with the members of all its sets in the order of a listing. -/
def listed : Value → Value
  | .tuple xs => .tuple (listedItems xs)
  | .set xs => .set ((listedItems xs).mergeSort fun a b => listingCompare a b != .gt)
  | v => v

/-- Several values, each as it is listed. -/
def listedItems : List Value → List Value
  | [] => []
  | x :: xs => listed x :: listedItems xs

end

end Value

end GridPuzzle
