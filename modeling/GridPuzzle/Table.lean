/-!
Lists by position, and lists of lists as tables. Positions are integers that count from the end when they
are negative, as everywhere in the language.
-/

namespace GridPuzzle

namespace Table

/-- The place that a position means in a list of `length` items, counted from the front. -/
def place (length : Nat) (position : Int) : Int :=
  if position < 0 then position + length else position

/-- The item at a position. -/
def item? {α : Type} (xs : List α) (position : Int) : Option α :=
  let p := place xs.length position
  if p < 0 then none else xs[p.toNat]?

/-- The place that a position means as a boundary: never before the front nor behind the end. -/
def boundary (length : Nat) (position : Int) : Nat :=
  min (place length position).toNat length

/-- The items from one boundary up to another. -/
def slice {α : Type} (xs : List α) (start stop : Int) : List α :=
  (xs.take (boundary xs.length stop)).drop (boundary xs.length start)

/-- The columns of a table, as far as its shortest row reaches. -/
def columns {α : Type} : List (List α) → List (List α)
  | [] => []
  | [row] => row.map ([·])
  | row :: rest => List.zipWith (· :: ·) row (columns rest)

/-- The numbers from `start` up to, and without, `stop`, in steps of `step`. A step of zero yields none. -/
def range (start stop step : Int) : List Int :=
  let count : Int :=
    if step > 0 then (stop - start + step - 1).fdiv step
    else if step < 0 then (start - stop - step - 1).fdiv (-step)
    else 0
  (List.range count.toNat).map fun (k : Nat) => start + step * k

/-- The numbers from `start` up to, and without, `stop`. -/
def upTo (start stop : Int) : List Int :=
  (List.range (stop - start).toNat).map fun (k : Nat) => start + k

/-- The items of a list with their places. -/
def indexed {α : Type} (xs : List α) : List (Nat × α) :=
  xs.zipIdx.map fun (x, i) => (i, x)

/-- The cells of a table, row by row, each with its row number and its column number. -/
def cells {α : Type} (rows : List (List α)) : List (Nat × Nat × α) :=
  (indexed rows).flatMap fun (i, row) => (indexed row).map fun (j, x) => (i, j, x)

end Table

end GridPuzzle
