import GridPuzzle.Fault

/-!
Sources of numbers from which samples are drawn. A source may be anything that gives one natural number
after another; the linear congruential one is used to draw samples that can be drawn again.
-/

namespace GridPuzzle

/-- A source of numbers, with states of type `σ`. -/
structure Source (σ : Type) where
  next : σ → Nat × σ

/-- A computation that draws from a source and may fail. -/
abbrev Draw (σ : Type) := StateT σ Outcome

namespace Source

variable {σ : Type} (source : Source σ)

/-- The next number of the source. -/
def draw : Draw σ Nat :=
  modifyGet source.next

/-- A number of thousandths, from zero up to, and without, one thousand. -/
def thousandths : Draw σ Nat :=
  return (← source.draw) % 1000

/-- A number from `low` up to, and without, `high`. -/
def between (low high : Int) : Draw σ Int := do
  if high ≤ low then throw .emptyRange
  return low + (← source.draw) % (high - low)

/-- A number from `low` up to `high`. -/
def upTo (low high : Int) : Draw σ Int :=
  source.between low (high + 1)

/-- An item of a list. -/
def item {α : Type} (xs : List α) : Draw σ α := do
  match xs with
  | [] => throw .outOfRange
  | x :: rest => return (x :: rest).getD ((← source.draw) % (x :: rest).length) x

/-- The linear congruential source with 31 bits of state, of which the upper 15 are given out. -/
def congruential : Source Nat where
  next state :=
    let state := (1103515245 * state + 12345) % 2147483648
    (state >>> 16, state)

/-- The state of the linear congruential source that a seed starts. -/
def stateOf (seed : Int) : Nat :=
  (seed % 2147483648).toNat

end Source

end GridPuzzle
