import GridPuzzle.Source.Definition

/-!
Checking the format of solver texts.

A solver is a function of one grid `I`. Each line of its body but the last assigns the result of one call
to a variable. A line is checked against the functions and constants that a solver may use and against the
lines above it; when all lines are checked, each variable but `O` must have been used.

A failure is shown with the call and the line that were looked at last. The call stays from an earlier
line, or from an earlier solver, when a line cannot be taken apart; if there has been none at all, the
failure cannot be shown and the check stops.
-/

namespace GridPuzzle

namespace Source

/-- What the lines of a solver may use. -/
structure Vocabulary where
  functions : List Text
  constants : List Text

/-- What the lines above have assigned and called. -/
structure Seen where
  assigned : List Text := []
  calls : List Text := []

/-- The constants that a text defines. -/
def constantNames (source : Text) : List Text :=
  let assigned := [' ', '=', ' ']
  (Text.lines (Text.unifyLineEnds source)).filterMap fun line =>
    (Text.after? assigned line).map fun _ => Text.before assigned line

/-- A condition of the format. -/
def require (condition : Bool) : Outcome Unit :=
  if condition then .ok () else .error .failedCheck

/-- The two sides of a line that is an assignment. -/
def assignment (line : Text) : Outcome (Text × Text) :=
  match Text.splitOn [' ', '=', ' '] (Text.trimStart line) with
  | [name, call] => .ok (name, call)
  | _ => .error .wrongParts

/-- The arguments of a call, given what stands behind its opening parenthesis. -/
def arguments (rest : Text) : Outcome (List Text) := do
  match rest.getLast? with
  | none => throw .outOfRange
  | some c =>
    require (c == ')')
    let inner := rest.dropLast
    return if rest.contains ',' then Text.splitOn [',', ' '] inner else [inner]

/-- What has been seen after an assignment, if the format admits it there. The variable that is assigned
counts as seen already for its own line. -/
def checkCall (vocabulary : Vocabulary) (seen : Seen) (name call : Text) : Outcome Seen := do
  match Text.splitOn ['('] call with
  | [function, rest] =>
    require (!vocabulary.functions.contains name)
    require (!seen.assigned.contains name)
    require (!seen.calls.contains call)
    let assigned := name :: seen.assigned
    require (vocabulary.functions.contains function || assigned.contains function)
    require ((← arguments rest).all fun argument =>
      assigned.contains argument || vocabulary.functions.contains argument ||
        vocabulary.constants.contains argument || argument == ['I'])
    return ⟨assigned, call :: seen.calls⟩
  | _ => throw .wrongParts

/-- The number of times that a definition names a variable. -/
def uses (definition : Text) (v : Text) : Nat :=
  let patterns : List Text :=
    [['('] ++ v ++ [')'], ['('] ++ v ++ [',', ' '], [',', ' '] ++ v ++ [')'],
      [',', ' '] ++ v ++ [',', ' '], [' '] ++ v ++ [' ', '=', ' '], [' '] ++ v ++ ['(']]
  (patterns.map (Text.countOf · definition)).foldl (· + ·) 0

/-- What the check of a solver was looking at last. -/
structure Focus where
  call : Option Text := none
  line : Text := []

/-- The check of the lines of a body. -/
def checkLines (vocabulary : Vocabulary) (focus : Focus) (seen : Seen) :
    List Text → Focus × Outcome Seen
  | [] => (focus, .ok seen)
  | line :: rest =>
    match assignment line with
    | .error fault => ({ focus with line }, .error fault)
    | .ok (name, call) =>
      match checkCall vocabulary seen name call with
      | .error fault => (⟨some call, line⟩, .error fault)
      | .ok seen => checkLines vocabulary ⟨some call, line⟩ seen rest

/-- The check of a solver, and what it was looking at last. -/
def checkSolver (vocabulary : Vocabulary) (focus : Focus) (name : Text) (d : Definition) :
    Focus × Outcome Unit :=
  if d.lines.head? == some (definer ++ name ++ ['(', 'I', ')', ':']) then
    let (focus, checked) := checkLines vocabulary focus {} d.lines.tail.dropLast
    (focus, do require ((← checked).assigned.all fun v => uses d.text v > 1 || v == ['O']))
  else
    (focus, .error .failedCheck)

/-- A solver that does not have the format. -/
structure Misformat where
  solver : Text
  fault : Fault
  call : Text
  line : Text

/-- The outcome of a check of several solvers. -/
structure FormatReport where
  failures : List Misformat := []
  passed : Nat := 0
  /-- Whether a failure could not be shown, which ended the check. -/
  stopped : Bool := false

/-- The check of several solvers, one after the other. -/
def checkSolvers (vocabulary : Vocabulary) (focus : Focus) (report : FormatReport) :
    List (Text × Definition) → FormatReport
  | [] => report
  | (name, d) :: rest =>
    match checkSolver vocabulary focus name d with
    | (focus, .ok ()) => checkSolvers vocabulary focus { report with passed := report.passed + 1 } rest
    | (focus, .error fault) =>
      match focus.call with
      | none => { report with stopped := true }
      | some call =>
        let failure := ⟨name, fault, call, Text.trimStart focus.line⟩
        checkSolvers vocabulary focus { report with failures := report.failures ++ [failure] } rest

/-- The lines that a report prints, given the word for a fault. -/
def FormatReport.lines (report : FormatReport) (total : Nat) (word : Fault → String) : List String :=
  let failures := report.failures.flatMap fun f =>
    [s!"Error in {String.ofList f.solver}: {String.ofList f.call}", word f.fault, String.ofList f.line]
  if report.stopped then failures
  else failures ++ [s!"{report.passed} out of {total} solvers formatted correctly."]

/-- The check of the solvers that a text defines: what is printed, and the fault that ends it early. -/
def checkFormat (solvers functions constants : Text) (word : Fault → String) :
    List String × Option Fault :=
  let vocabulary : Vocabulary := ⟨functionNames functions, constantNames constants⟩
  let names := (functionNames solvers).eraseDups
  match names.mapM fun name => return (name, ← definition solvers name) with
  | .error fault => ([], some fault)
  | .ok defined =>
    let report := checkSolvers vocabulary {} {} defined
    (report.lines names.length word, if report.stopped then some .unsetName else none)

end Source

end GridPuzzle
