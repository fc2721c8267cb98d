import GridPuzzle.Primitive.Meaning

/-!
Calling functions, and evaluating expressions.

A built function is called by calling the functions it was built from, which are smaller values. A
primitive may call functions that it is given as arguments; such calls can nest without end, since a
function can be given to itself, and so they are counted and limited.
-/

namespace GridPuzzle

namespace Value

/-- A call of a function, given how primitives are run. -/
def callWith (run : Primitive → List Value → Eval Value) : Value → List Value → Eval Value
  | .prim p, args => run p args
  | .compose _ outer inner, [x] => do callWith run outer [← callWith run inner [x]]
  | .compose3 _ third second first, [x] => do
    callWith run third [← callWith run second [← callWith run first [x]]]
  | .hasResult _ function target, [x] => return .bool ((← callWith run function [x]) == target)
  | .bindFirst _ rest function fixed, args =>
    if args.length = rest then callWith run function (fixed :: args) else throw .wrongArity
  | .bindLast _ rest function fixed, args =>
    if args.length = rest then callWith run function (args ++ [fixed]) else throw .wrongArity
  | .fork _ outer left right, [x] => do
    let a ← callWith run left [x]
    callWith run outer [a, ← callWith run right [x]]
  | .compose .., _ | .compose3 .., _ | .hasResult .., _ | .fork .., _ => throw .wrongArity
  | _, _ => throw .wrongKind

/-- A call of a function, within which the calls that primitives make nest `depth` deep at most. -/
def call : Nat → Caller
  | 0 => callWith (Primitive.run fun _ _ => throw .tooDeep)
  | depth + 1 => callWith (Primitive.run (call depth))

end Value

/-- How deep the calls that primitives make may nest. -/
def depthLimit : Nat := 1000

/-- A call of a function. -/
def apply : Caller :=
  Value.call depthLimit

/-- Variables and their values, the latest first. -/
abbrev Bindings := List (String × Value)

/-- An expression. -/
inductive Expr where
  | literal (v : Value)
  | tuple (items : List Expr)
  | set (items : List Expr)
  | variable (name : String)
  | call (function : Expr) (args : List Expr)

namespace Expr

mutual

/-- The value of an expression. Parts are evaluated from left to right, a function before its
arguments. -/
def eval (bindings : Bindings) : Expr → Eval Value
  | .literal v => return v
  | .tuple items => return .tuple (← evalAll bindings items)
  | .set items => return .setOf (← evalAll bindings items)
  | .variable name => Outcome.ofOption .unsetName (bindings.lookup name)
  | .call function args => do
    let f ← eval bindings function
    apply f (← evalAll bindings args)

/-- The values of several expressions. -/
def evalAll (bindings : Bindings) : List Expr → Eval (List Value)
  | [] => return []
  | e :: es => do
    let v ← eval bindings e
    return v :: (← evalAll bindings es)

end

/-- The value of an expression without variables. -/
def value (e : Expr) : Outcome Value :=
  (eval [] e).run' 0

/-- The values of named expressions, each of which may use the names before it. The list ends with the
first that fails. -/
def trace (bindings : Bindings) (serial : Nat) : List (String × Expr) → List (Outcome Value)
  | [] => []
  | (name, e) :: rest =>
    match (eval bindings e).run serial with
    | .ok (v, serial) => .ok v :: trace ((name, v) :: bindings) serial rest
    | .error fault => [.error fault]

end Expr

end GridPuzzle
