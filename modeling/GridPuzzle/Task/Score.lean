import GridPuzzle.Dictionary
import GridPuzzle.Task.Catalogue

/-!
Scoring the catalogue against examples. Each task counts as solved until one of its examples is missed; an
example is missed when the program's result differs from the expected output. Every further miss of a task
is counted as well, and each is kept to be shown.
-/

namespace GridPuzzle

namespace Task

/-- An example of a task. Either grid may be missing. -/
structure Example where
  input : Option Value
  output : Option Value

/-- Examples by task. -/
abbrev ExampleSet := List (String × List Example)

/-- Two sets of examples, either of which may be missing. -/
structure Dataset where
  train : Option ExampleSet
  test : Option ExampleSet

/-- An example that a program misses. -/
structure Miss where
  task : String
  /-- The number of the example among those of its task. -/
  index : Nat
  input : Value
  output : Value
  solved : Value

/-- The heading under which a miss is shown. -/
def Miss.title (m : Miss) : String :=
  s!"Task {m.task} Iteration {m.index}"

/-- The three grids of a miss, each with its own heading. -/
def Miss.panels (m : Miss) : List (String × Value) :=
  [("Input", m.input), ("Output", m.output), ("Solved", m.solved)]

/-- The entries of a list by key: a key that comes again keeps its place and gets the later entry. -/
def ExampleSet.ofEntries (entries : List (String × List Example)) : ExampleSet :=
  Dictionary.ofList entries

/-- The misses of a program on numbered examples. -/
def misses (task : String) (program : Program) : List (Nat × Example) → Outcome (List Miss)
  | [] => return []
  | (index, ex) :: rest => do
    let input ← Outcome.ofOption .missingKey ex.input
    let solved ← program.run input
    let output ← Outcome.ofOption .missingKey ex.output
    let others ← misses task program rest
    return if solved == output then others else ⟨task, index, input, output, solved⟩ :: others

/-- The misses of each task of a data set, in order. -/
def missesByTask (data : Dataset) : Outcome (List (List Miss)) := do
  let train ← Outcome.ofOption .missingKey data.train
  train.mapM fun (task, examples) => do
    let test ← Outcome.ofOption .missingKey data.test
    let more ← Outcome.ofOption .missingKey (test.lookup task)
    let program ← Outcome.ofOption .unsupported (program? task)
    misses task program (Table.indexed (examples ++ more))

/-- The score of the catalogue on a data set. -/
structure Score where
  /-- The number of tasks less the number of misses. -/
  solved : Int
  total : Nat
  misses : List Miss

def score (data : Dataset) : Outcome Score := do
  let all ← missesByTask data
  return ⟨all.length - all.flatten.length, all.length, all.flatten⟩

/-- The line that reports a score. -/
def Score.line (s : Score) : String :=
  s!"{s.solved} out of {s.total} tasks solved correctly."

end Task

end GridPuzzle
