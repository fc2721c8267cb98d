/-!
The ways in which an evaluation fails. A fault names its cause and carries no text: what is printed for
it is decided where a run is shown to someone.
-/

namespace GridPuzzle

/-- The cause of a failed evaluation. -/
inductive Fault where
  /-- A value of one kind stands where another kind is needed. -/
  | wrongKind
  /-- A function is called with a number of arguments that it does not take. -/
  | wrongArity
  /-- A tuple has no item at the place asked for. -/
  | outOfRange
  /-- A best item is asked of a collection that has none. -/
  | noChoice
  /-- A value is taken apart into more or fewer parts than it has. -/
  | wrongParts
  /-- A range is asked for whose step is zero. -/
  | zeroStep
  /-- A number is drawn from a range that has none. -/
  | emptyRange
  /-- A look-up by key finds nothing. -/
  | missingKey
  /-- A value lacks the operation that is asked of it. -/
  | unsupported
  /-- A next item is asked of a traversal that has none left. -/
  | exhausted
  /-- An item's own computation ran out of items while a larger traversal was under way. -/
  | exhaustedInside
  | divisionByZero
  /-- Functions call each other without end. -/
  | tooDeep
  /-- A name is used that was never given a value. -/
  | unsetName
  /-- A stated condition does not hold. -/
  | failedCheck
  | missingFile
  | malformedText
  deriving DecidableEq, Repr

/-- The result of a computation that may fail. -/
abbrev Outcome := Except Fault

end GridPuzzle
