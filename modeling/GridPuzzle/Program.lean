import GridPuzzle.Constant
import GridPuzzle.Evaluation

/-!
Straight-line programs. A program is a list of steps; each step calls one function on operands, and its
result is numbered by the step, from one. The result of a program is the result of its last step.

The second half gives operands and steps short names, in which the programs of the task modules are
written.
-/

namespace GridPuzzle

/-- What a step refers to. -/
inductive Operand where
  /-- The grid that the program is run on. -/
  | input
  /-- The result of an earlier step. -/
  | result (step : Nat)
  | constant (c : Constant)
  | function (p : Primitive)
  deriving DecidableEq, Repr

/-- A call of a function on arguments. -/
structure Step where
  function : Operand
  args : List Operand
  deriving DecidableEq, Repr

/-- The steps of a program, in order. -/
abbrev Program := List Step

/-- The value of an operand, given the results of the steps so far. -/
def Operand.value (input : Value) (results : List Value) : Operand → Outcome Value
  | .input => .ok input
  | .result 0 => .error .unsetName
  | .result (k + 1) => Outcome.ofOption .unsetName results[k]?
  | .constant c => .ok c.value
  | .function p => .ok (.prim p)

/-- The values of several operands. -/
def Operand.values (input : Value) (results : List Value) (operands : List Operand) :
    Outcome (List Value) :=
  operands.mapM (Operand.value input results)

/-- The result of a step, given the results of the steps so far. -/
def Step.run (input : Value) (results : List Value) (step : Step) : Eval Value := do
  let function ← step.function.value input results
  apply function (← Operand.values input results step.args)

namespace Program

/-- The result of the last step, given the results of the steps so far. -/
def runFrom (input : Value) (results : List Value) : Program → Eval Value
  | [] => Outcome.ofOption .unsetName results.getLast?
  | step :: rest => do
    let v ← step.run input results
    runFrom input (results ++ [v]) rest

/-- The result of a program on an input. -/
def run (program : Program) (input : Value) : Outcome Value :=
  (program.runFrom input []).run' 0

/-! ## Writing programs -/

/-- A step that calls a primitive. -/
abbrev call (p : Primitive) (args : List Operand) : Step :=
  ⟨.function p, args⟩

/-- A step that calls the function which an earlier step has built. -/
abbrev callResult (step : Nat) (args : List Operand) : Step :=
  ⟨.result step, args⟩

/-- The grid that the program is run on. -/
abbrev input : Operand := .input

/-- The result of a step. -/
abbrev x (step : Nat) : Operand := .result step

/-- A primitive as an argument. -/
abbrev fn (p : Primitive) : Operand := .function p

abbrev yes : Operand := .constant .true
abbrev no : Operand := .constant .false
abbrev zero : Operand := .constant .zero
abbrev one : Operand := .constant .one
abbrev two : Operand := .constant .two
abbrev three : Operand := .constant .three
abbrev four : Operand := .constant .four
abbrev five : Operand := .constant .five
abbrev six : Operand := .constant .six
abbrev seven : Operand := .constant .seven
abbrev eight : Operand := .constant .eight
abbrev nine : Operand := .constant .nine
abbrev ten : Operand := .constant .ten
abbrev negOne : Operand := .constant .negOne
abbrev negTwo : Operand := .constant .negTwo
abbrev down : Operand := .constant .down
abbrev right : Operand := .constant .right
abbrev up : Operand := .constant .up
abbrev left : Operand := .constant .left
abbrev origin : Operand := .constant .origin
abbrev unity : Operand := .constant .unity
abbrev negUnity : Operand := .constant .negUnity
abbrev upRight : Operand := .constant .upRight
abbrev downLeft : Operand := .constant .downLeft
abbrev zeroByTwo : Operand := .constant .zeroByTwo
abbrev twoByZero : Operand := .constant .twoByZero
abbrev twoByTwo : Operand := .constant .twoByTwo
abbrev threeByThree : Operand := .constant .threeByThree

end Program

end GridPuzzle
