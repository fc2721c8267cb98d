import GridPuzzle.Source.Definition

/-!
Running a text of tests. There must be one test for each function of another text, named after it, and no
other test. A test passes, fails a check, or raises an error of a kind that it names.
-/

namespace GridPuzzle

namespace Source

/-- Why a run of tests ends early. -/
inductive TestFailure where
  | fault (cause : Fault)
  /-- A test raised an error of this kind. -/
  | raised (kind : Text)

/-- The parameters of a definition, and its body. -/
def signature (d : Definition) : Text × Text :=
  let afterOpen := (Text.after? ['('] d.text).getD []
  let afterClose := (Text.after? [')'] afterOpen).getD []
  (Text.before [')'] afterOpen, (Text.after? [':'] afterClose).getD [])

/-- The statements of a body. -/
def statements (body : Text) : List Text :=
  (Text.lines body).flatMap fun line => (Text.splitOn [';'] line).map Text.trim

/-- The effect of a statement: to fail a check, to raise an error, or none. -/
def runStatement (statement : Text) : Except TestFailure Unit :=
  let raising := "raise ".toList
  if statement == "assert False".toList then .error (.fault .failedCheck)
  else if raising.isPrefixOf statement then
    let kind := Text.trimStart (statement.drop raising.length)
    .error (.raised (kind.takeWhile fun c => c != '(' && !Text.isBlank c))
  else .ok ()

/-- A test that is called without arguments. -/
def runTest (d : Definition) : Except TestFailure Unit :=
  let (parameters, body) := signature d
  if parameters.all Text.isBlank then (statements body).forM runStatement
  else .error (.fault .wrongArity)

/-- The name of the test of a function. -/
def testName (function : Text) : Text :=
  "test_".toList ++ function

/-- A run of the tests of a text, in order, if they are those of the functions of another text. -/
def runTests (functions tests : Text) : Except TestFailure Unit := do
  let expected := (functionNames functions).map testName
  let names := functionNames tests
  if names.all expected.contains && expected.all names.contains then
    names.forM fun name =>
      match definition tests name with
      | .ok d => runTest d
      | .error cause => .error (.fault cause)
  else
    throw (.fault .failedCheck)

end Source

end GridPuzzle
