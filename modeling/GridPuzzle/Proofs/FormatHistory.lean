import GridPuzzle.Proofs.FunctionBlock

/-!
# What a format check shows of its failures

A failure is shown with the call and the line that were looked at last, and these may come from an earlier line
or from an earlier solver. So what is shown depends on the history of the check: the lines of the bodies that it
has looked at, solver after solver (`history`).

* `checkSolver_fst`: the check of a solver moves the focus along the lines that it looks at, whatever the focus
  was before. Whether the solver passes does not depend on the focus (`checkSolver_snd`) and is a property of its
  own text (`passes_iff_wellFormatted`).
* `checkSolvers_of_failsUnshown`, `exists_checkSolvers`: the check stops exactly if the first failure is met while
  no line of the history could be split into a variable and a call. Otherwise it runs to its end.
-/

namespace GridPuzzle

namespace Source

/-! ## The lines that a check looks at -/

/-- The call on a line that can be split into a variable and a call. -/
def calledOn? (line : Text) : Option Text :=
  match assignment line with
  | .ok (_, call) => some call
  | .error _ => none

/-- What has been seen after a line, if the format admits the line. -/
def checkLine (vocabulary : Vocabulary) (seen : Seen) (line : Text) : Outcome Seen := do
  let (name, call) ← assignment line
  checkCall vocabulary seen name call

/-- The lines that the check of a body looks at: those up to the first one that the format does not admit. -/
def examined (vocabulary : Vocabulary) (seen : Seen) : List Text → List Text
  | [] => []
  | line :: rest =>
    line :: match checkLine vocabulary seen line with
      | .ok seen => examined vocabulary seen rest
      | .error _ => []

/-- The first line of a solver with a name. -/
def header (name : Text) : Text :=
  definer ++ name ++ ['(', 'I', ')', ':']

/-- The lines of a body that the check of a solver looks at. There are none if the first line of the solver is
not as it must be. -/
def lookedAt (vocabulary : Vocabulary) (solver : Text × Definition) : List Text :=
  if solver.2.lines.head? = some (header solver.1) then examined vocabulary {} solver.2.body else []

/-- The lines that a check of some solvers has looked at. -/
def history (vocabulary : Vocabulary) (solvers : List (Text × Definition)) : List Text :=
  solvers.flatMap (lookedAt vocabulary)

/-- The call that was looked at last. -/
def lastCall (lines : List Text) : Option Text :=
  (lines.filterMap calledOn?).getLast?

/-- The focus after one more line. The call stays if the line cannot be split. -/
def Focus.look (focus : Focus) (line : Text) : Focus :=
  ⟨(calledOn? line).or focus.call, line⟩

section

variable (focus : Focus) (lines : List Text)

theorem call_foldl_look : (lines.foldl Focus.look focus).call = (lastCall lines).or focus.call := by
  induction lines generalizing focus with
  | nil => rfl
  | cons line rest ih =>
      rw [List.foldl_cons, ih, Focus.look, lastCall, lastCall, List.filterMap_cons]
      cases calledOn? line with
      | none => rfl
      | some call =>
          rw [List.getLast?_cons]
          cases (rest.filterMap calledOn?).getLast? <;> rfl

theorem line_foldl_look : (lines.foldl Focus.look focus).line = lines.getLast?.getD focus.line := by
  induction lines generalizing focus with
  | nil => rfl
  | cons line rest ih =>
      rw [List.foldl_cons, ih, List.getLast?_cons]
      rfl

end

theorem lastCall_eq_none_iff {lines : List Text} :
    lastCall lines = none ↔ ∀ line ∈ lines, calledOn? line = none := by
  rw [lastCall, List.getLast?_eq_none_iff, List.filterMap_eq_nil_iff]

/-! ## The check of a solver -/

variable {vocabulary : Vocabulary}

theorem checkLines_fst (focus : Focus) (seen : Seen) (lines : List Text) :
    (checkLines vocabulary focus seen lines).1 = (examined vocabulary seen lines).foldl Focus.look focus := by
  induction lines generalizing focus seen with
  | nil => rfl
  | cons line rest ih =>
      cases hline : assignment line with
      | error fault => simp [checkLines, examined, checkLine, Focus.look, calledOn?, hline]
      | ok sides =>
          obtain ⟨name, call⟩ := sides
          cases hcall : checkCall vocabulary seen name call with
          | error fault => simp [checkLines, examined, checkLine, Focus.look, calledOn?, hline, hcall]
          | ok seen' => simp [checkLines, examined, checkLine, Focus.look, calledOn?, hline, hcall, ih]

section

variable {name : Text} {d : Definition}

theorem checkSolver_of_header (focus : Focus) (named : d.lines.head? = some (header name)) :
    checkSolver vocabulary focus name d = ((checkLines vocabulary focus {} d.body).1, do
      require ((← (checkLines vocabulary focus {} d.body).2).assigned.all
        fun v => uses d.text v > 1 || v == ['O'])) := by
  rw [header] at named
  rw [checkSolver, if_pos (beq_iff_eq.mpr named)]
  rfl

theorem checkSolver_of_not_header (focus : Focus) (unnamed : d.lines.head? ≠ some (header name)) :
    checkSolver vocabulary focus name d = (focus, .error .failedCheck) := by
  rw [header] at unnamed
  rw [checkSolver, if_neg fun named => unnamed (beq_iff_eq.mp named)]

/-- The check of a solver moves the focus along the lines that it looks at. -/
theorem checkSolver_fst (focus : Focus) (name : Text) (d : Definition) :
    (checkSolver vocabulary focus name d).1 = (lookedAt vocabulary (name, d)).foldl Focus.look focus := by
  by_cases named : d.lines.head? = some (header name)
  · rw [checkSolver_of_header focus named, checkLines_fst, lookedAt, if_pos named]
  · rw [checkSolver_of_not_header focus named, lookedAt, if_neg named]
    rfl

end

/-- The text of a solver is as the format demands, whatever stands in other solvers. -/
structure WellFormatted (vocabulary : Vocabulary) (solver : Text × Definition) : Prop where
  header : solver.2.lines.head? = some (header solver.1)
  body : ∃ last, Admitted vocabulary {} solver.2.body last ∧
    ∀ v ∈ last.assigned, 1 < uses solver.2.text v ∨ v = ['O']

theorem isOk_require (condition : Bool) : (require condition).isOk = condition := by
  cases condition <;> rfl

/-- A solver passes the check exactly if its own text is well formatted. -/
theorem passes_iff_wellFormatted (solver : Text × Definition) :
    passes vocabulary solver = true ↔ WellFormatted vocabulary solver := by
  obtain ⟨name, d⟩ := solver
  by_cases named : d.lines.head? = some (header name)
  · rw [passes, checkSolver_of_header {} named]
    dsimp only
    cases hlines : (checkLines vocabulary {} {} d.body).2 with
    | error fault =>
        refine ⟨fun passed => absurd passed Bool.false_ne_true, fun formatted => ?_⟩
        obtain ⟨last, admitted, -⟩ := formatted.body
        rw [checkLines_eq_ok_iff.mpr admitted] at hlines
        cases hlines
    | ok last =>
        have admitted : Admitted vocabulary {} d.body last := checkLines_eq_ok_iff.mp hlines
        rw [Outcome.ok_bind, isOk_require, List.all_eq_true]
        simp only [Bool.or_eq_true, decide_eq_true_eq, beq_iff_eq]
        refine ⟨fun used => ⟨named, last, admitted, used⟩, fun formatted => ?_⟩
        obtain ⟨last', admitted', used⟩ := formatted.body
        have same : last = last' :=
          Except.ok.inj (hlines.symm.trans (checkLines_eq_ok_iff.mpr admitted'))
        rwa [same]
  · rw [passes, checkSolver_of_not_header {} named]
    exact ⟨fun passed => absurd passed Bool.false_ne_true, fun formatted => absurd formatted.header named⟩

/-! ## The check of several solvers -/

/-- The focus after a check of some solvers. -/
def focusAfter (vocabulary : Vocabulary) (solvers : List (Text × Definition)) : Focus :=
  (history vocabulary solvers).foldl Focus.look {}

theorem call_focusAfter (solvers : List (Text × Definition)) :
    (focusAfter vocabulary solvers).call = lastCall (history vocabulary solvers) := by
  rw [focusAfter, call_foldl_look]
  exact Option.or_none

theorem history_concat (solvers : List (Text × Definition)) (solver : Text × Definition) :
    history vocabulary (solvers ++ [solver]) = history vocabulary solvers ++ lookedAt vocabulary solver := by
  simp [history]

/-- What is shown of a solver that fails after some others. -/
def failureAfter (vocabulary : Vocabulary) (before : List (Text × Definition)) (solver : Text × Definition)
    (fault : Fault) (call : Text) : Misformat :=
  ⟨solver.1, fault, call, Text.trimStart (focusAfter vocabulary (before ++ [solver])).line⟩

section

variable {before rest : List (Text × Definition)} {solver : Text × Definition} {report : FormatReport}

theorem checkSolver_focusAfter :
    checkSolver vocabulary (focusAfter vocabulary before) solver.1 solver.2 =
      (focusAfter vocabulary (before ++ [solver]), (checkSolver vocabulary {} solver.1 solver.2).2) := by
  refine Prod.ext ?_ (checkSolver_snd vocabulary _ {} solver.1 solver.2)
  rw [checkSolver_fst, focusAfter, focusAfter, history_concat, List.foldl_append]

theorem checkSolvers_pass (passed : passes vocabulary solver = true) :
    checkSolvers vocabulary (focusAfter vocabulary before) report (solver :: rest) =
      checkSolvers vocabulary (focusAfter vocabulary (before ++ [solver]))
        { report with passed := report.passed + 1 } rest := by
  rw [checkSolvers, checkSolver_focusAfter]
  rw [passes] at passed
  cases hcheck : (checkSolver vocabulary {} solver.1 solver.2).2 with
  | ok => rfl
  | error fault =>
      rw [hcheck] at passed
      exact absurd passed Bool.false_ne_true

theorem exists_fault_of_not_passes (failed : passes vocabulary solver = false) :
    ∃ fault, (checkSolver vocabulary {} solver.1 solver.2).2 = .error fault := by
  rw [passes] at failed
  cases hcheck : (checkSolver vocabulary {} solver.1 solver.2).2 with
  | ok =>
      rw [hcheck] at failed
      exact absurd failed.symm Bool.false_ne_true
  | error fault => exact ⟨fault, rfl⟩

section

variable {fault : Fault} (failed : (checkSolver vocabulary {} solver.1 solver.2).2 = .error fault)
include failed

/-- A failure for which there is a call is shown, and the check goes on. -/
theorem checkSolvers_show {call : Text} (hcall : lastCall (history vocabulary (before ++ [solver])) = some call) :
    checkSolvers vocabulary (focusAfter vocabulary before) report (solver :: rest) =
      checkSolvers vocabulary (focusAfter vocabulary (before ++ [solver]))
        { report with failures := report.failures ++ [failureAfter vocabulary before solver fault call] } rest := by
  rw [← call_focusAfter] at hcall
  rw [checkSolvers, checkSolver_focusAfter, failed]
  simp only [hcall, failureAfter]

/-- A failure for which there is no call ends the check. -/
theorem checkSolvers_stop (hcall : lastCall (history vocabulary (before ++ [solver])) = none) :
    checkSolvers vocabulary (focusAfter vocabulary before) report (solver :: rest) =
      { report with stopped := true } := by
  rw [← call_focusAfter] at hcall
  rw [checkSolvers, checkSolver_focusAfter, failed]
  simp only [hcall]

end

end

/-- Of some solvers, which are checked after others, the first one that fails is met before any line of a body,
its own or that of a solver before it, could be split into a variable and a call. -/
def FailsUnshown (vocabulary : Vocabulary) (earlier solvers : List (Text × Definition)) : Prop :=
  ∃ passed solver after, solvers = passed ++ solver :: after ∧
    (∀ s ∈ passed, passes vocabulary s = true) ∧ passes vocabulary solver = false ∧
    ∀ line ∈ history vocabulary (earlier ++ (passed ++ [solver])), calledOn? line = none

/-- The failure of one of some solvers, as it is shown: with the call that was looked at last before, and with
the last line. -/
structure IsShown (vocabulary : Vocabulary) (solvers : List (Text × Definition)) (solver : Text × Definition)
    (failure : Misformat) : Prop where
  name : failure.solver = solver.1
  fault : (checkSolver vocabulary {} solver.1 solver.2).2 = .error failure.fault
  focus : ∃ before after line, solvers = before ++ solver :: after ∧
    lastCall (history vocabulary (before ++ [solver])) = some failure.call ∧
    (history vocabulary (before ++ [solver])).getLast? = some line ∧ failure.line = Text.trimStart line

theorem isShown_of_lastCall {before rest : List (Text × Definition)} {solver : Text × Definition} {fault : Fault}
    {call : Text} (failed : (checkSolver vocabulary {} solver.1 solver.2).2 = .error fault)
    (hcall : lastCall (history vocabulary (before ++ [solver])) = some call) :
    IsShown vocabulary (before ++ solver :: rest) solver (failureAfter vocabulary before solver fault call) := by
  refine ⟨rfl, failed, before, rest, ?_⟩
  cases hline : (history vocabulary (before ++ [solver])).getLast? with
  | none =>
      rw [List.getLast?_eq_none_iff] at hline
      rw [hline] at hcall
      cases hcall
  | some line =>
      refine ⟨line, rfl, hcall, rfl, ?_⟩
      rw [failureAfter, focusAfter, line_foldl_look, hline, Option.getD_some]

theorem checkSolvers_of_failsUnshown {earlier solvers : List (Text × Definition)}
    (h : FailsUnshown vocabulary earlier solvers) (report : FormatReport) :
    (checkSolvers vocabulary (focusAfter vocabulary earlier) report solvers).stopped = true ∧
      (checkSolvers vocabulary (focusAfter vocabulary earlier) report solvers).failures = report.failures := by
  obtain ⟨passed, solver, after, rfl, hpassed, failed, unsplit⟩ := h
  -- The solvers before the first failure pass one by one and show nothing.
  induction passed generalizing earlier report with
  | nil =>
      obtain ⟨fault, hfault⟩ := exists_fault_of_not_passes failed
      rw [List.nil_append, checkSolvers_stop hfault (lastCall_eq_none_iff.mpr unsplit)]
      exact ⟨rfl, rfl⟩
  | cons first passed ih =>
      rw [List.cons_append, checkSolvers_pass (hpassed first List.mem_cons_self)]
      refine ih _ (fun s hs => hpassed s (List.mem_cons_of_mem first hs)) ?_
      rwa [List.append_assoc, List.singleton_append, ← List.cons_append]

section

variable {earlier rest : List (Text × Definition)} {solver : Text × Definition}

theorem FailsUnshown.cons (h : FailsUnshown vocabulary (earlier ++ [solver]) rest)
    (hsolver : passes vocabulary solver = true) : FailsUnshown vocabulary earlier (solver :: rest) := by
  obtain ⟨passed, failing, after, rfl, hpassed, failed, unsplit⟩ := h
  refine ⟨solver :: passed, failing, after, rfl, List.forall_mem_cons.mpr ⟨hsolver, hpassed⟩, failed, ?_⟩
  rwa [List.append_assoc, List.singleton_append] at unsplit

theorem failsUnshown_of_first (hsolver : passes vocabulary solver = false)
    (hcall : lastCall (history vocabulary (earlier ++ [solver])) = none) :
    FailsUnshown vocabulary earlier (solver :: rest) :=
  ⟨[], solver, rest, rfl, by simp, hsolver, lastCall_eq_none_iff.mp hcall⟩

/-- A call that has been looked at stays in every longer history, so later failures are shown. -/
theorem not_failsUnshown_of_call {call : Text} (hcall : lastCall (history vocabulary earlier) = some call) :
    ¬ FailsUnshown vocabulary earlier rest := by
  intro h
  obtain ⟨passed, failing, after, -, -, -, unsplit⟩ := h
  have none : lastCall (history vocabulary earlier) = none := by
    refine lastCall_eq_none_iff.mpr fun line hline => unsplit line ?_
    rw [history, List.flatMap_append]
    exact List.mem_append_left _ hline
  rw [none] at hcall
  cases hcall

end

theorem exists_checkSolvers {earlier solvers : List (Text × Definition)}
    (shown : ¬ FailsUnshown vocabulary earlier solvers) (report : FormatReport) :
    ∃ failures,
      List.Forall₂ (IsShown vocabulary (earlier ++ solvers))
        (solvers.filter fun solver => !passes vocabulary solver) failures ∧
      checkSolvers vocabulary (focusAfter vocabulary earlier) report solvers =
        ⟨report.failures ++ failures, report.passed + solvers.countP (passes vocabulary), report.stopped⟩ := by
  induction solvers generalizing earlier report with
  | nil => exact ⟨[], .nil, by simp [checkSolvers]⟩
  | cons solver rest ih =>
      have whole : earlier ++ solver :: rest = (earlier ++ [solver]) ++ rest := by simp
      cases hsolver : passes vocabulary solver with
      | true =>
          obtain ⟨failures, hshown, hreport⟩ := ih (fun unshown => shown (unshown.cons hsolver))
            { report with passed := report.passed + 1 }
          refine ⟨failures, ?_, ?_⟩
          · rw [whole, List.filter_cons_of_neg (by simp [hsolver])]
            exact hshown
          · rw [checkSolvers_pass hsolver, hreport, List.countP_cons_of_pos hsolver, Nat.add_right_comm,
              Nat.add_assoc report.passed]
      | false =>
          obtain ⟨fault, failed⟩ := exists_fault_of_not_passes hsolver
          cases hcall : lastCall (history vocabulary (earlier ++ [solver])) with
          | none => exact absurd (failsUnshown_of_first hsolver hcall) shown
          | some call =>
              obtain ⟨failures, hshown, hreport⟩ := ih (not_failsUnshown_of_call hcall)
                { report with failures := report.failures ++ [failureAfter vocabulary earlier solver fault call] }
              refine ⟨failureAfter vocabulary earlier solver fault call :: failures, ?_, ?_⟩
              · rw [List.filter_cons_of_pos (by simp [hsolver])]
                refine .cons (isShown_of_lastCall failed hcall) ?_
                rw [whole]
                exact hshown
              · rw [checkSolvers_show failed hcall, hreport, List.countP_cons_of_neg (by simp [hsolver]),
                  List.append_assoc, List.singleton_append]

/-! ## The whole check -/

/-- The three lines for a failure, given the word for a fault. -/
def Misformat.shown (word : Fault → String) (failure : Misformat) : List String :=
  [s!"Error in {String.ofList failure.solver}: {String.ofList failure.call}", word failure.fault,
    String.ofList failure.line]

section

variable {solvers functions constants : Text} {word : Fault → String} {defined : List (Text × Definition)}
  (hdefined : ((solverNames solvers).mapM fun name => return (name, ← definition solvers name)) = .ok defined)
include hdefined

/-- A check of solvers that all have a definition. -/
theorem checkFormat_of_mapM {report : FormatReport}
    (hreport : checkSolvers (vocabularyOf functions constants) {} {} defined = report) :
    checkFormat solvers functions constants word =
      (report.lines (solverNames solvers).length word, if report.stopped then some .unsetName else none) := by
  rw [solverNames] at hdefined ⊢
  rw [vocabularyOf] at hreport
  unfold checkFormat
  simp only [hdefined, hreport]

theorem checkFormat_of_failsUnshown (unshown : FailsUnshown (vocabularyOf functions constants) [] defined) :
    checkFormat solvers functions constants word = ([], some .unsetName) := by
  obtain ⟨stopped, failures⟩ := checkSolvers_of_failsUnshown unshown {}
  have start : focusAfter (vocabularyOf functions constants) [] = {} := rfl
  rw [start] at stopped failures
  rw [checkFormat_of_mapM hdefined rfl, FormatReport.lines, stopped, failures]
  rfl

theorem exists_checkFormat (shown : ¬ FailsUnshown (vocabularyOf functions constants) [] defined) :
    ∃ failures,
      List.Forall₂ (IsShown (vocabularyOf functions constants) defined)
        (defined.filter fun solver => !passes (vocabularyOf functions constants) solver) failures ∧
      checkFormat solvers functions constants word = (failures.flatMap (Misformat.shown word) ++
        [countLine (defined.countP (passes (vocabularyOf functions constants))) (solverNames solvers).length],
        none) := by
  obtain ⟨failures, hshown, hreport⟩ := exists_checkSolvers shown {}
  have start : focusAfter (vocabularyOf functions constants) [] = {} := rfl
  rw [start, List.nil_append, Nat.zero_add] at hreport
  refine ⟨failures, hshown, ?_⟩
  rw [checkFormat_of_mapM hdefined hreport]
  rfl

end

/-- **How a check of the format ends.** If the names in a text are plainly written, each of them has its definition.
In a text of plain functions this has the lines of its own function and no others, and it is the same in every text
with this function, whatever other functions there are. The check of the solvers ends early exactly if the first solver
that fails does so before any line could be split into a variable and a call; then nothing is printed. Otherwise it
prints three lines for each solver that fails, in order, and how many of the solvers pass, where a solver passes by its
own text alone. -/
theorem format_check_outcome {solvers : Text} (named : NamedPlainly solvers) (functions constants : Text)
    (word : Fault → String) :
    ∃ defined, defined.map Prod.fst = solverNames solvers ∧
      (∀ solver ∈ defined, definition solvers solver.1 = .ok solver.2 ∧
        (passes (vocabularyOf functions constants) solver = true ↔
          WellFormatted (vocabularyOf functions constants) solver)) ∧
      (PlainFunctions solvers → ∀ solver ∈ defined,
        ∃ b : Block, b.IsLastIn solvers ∧ b.name = solver.1 ∧ b.definition = solver.2 ∧
          ∀ other, b.IsLastIn other → definition other solver.1 = .ok solver.2) ∧
      (FailsUnshown (vocabularyOf functions constants) [] defined →
        checkFormat solvers functions constants word = ([], some .unsetName)) ∧
      (¬ FailsUnshown (vocabularyOf functions constants) [] defined →
        ∃ failures,
          List.Forall₂ (IsShown (vocabularyOf functions constants) defined)
            (defined.filter fun solver => !passes (vocabularyOf functions constants) solver) failures ∧
          checkFormat solvers functions constants word = (failures.flatMap (Misformat.shown word) ++
            [countLine (defined.countP (passes (vocabularyOf functions constants))) (solverNames solvers).length],
            none)) := by
  obtain ⟨defined, hdefined, names, definitions⟩ := named.exists_mapM_definition
  refine ⟨defined, names, fun solver hsolver => ⟨definitions solver hsolver, passes_iff_wellFormatted solver⟩,
    fun plain solver hsolver => ?_, checkFormat_of_failsUnshown hdefined, exists_checkFormat hdefined⟩
  obtain ⟨b, last, hname, hlines⟩ := plain.exists_block (definitions solver hsolver)
  refine ⟨b, last, hname, hlines, fun other h => ?_⟩
  rw [← hname, ← hlines]
  exact definition_of_block h

/-- A solver whose input has another name than it must have. -/
def otherInputSolver : Text :=
  "def solve_c(x):\n    return x\n".toList

/-- A failure behind a solver that passes is shown, with the last call of that solver. -/
theorem format_check_of_later_failure :
    PlainFunctions (twoStepSolver ++ otherInputSolver) ∧
    ∃ defined failures,
      (∀ solver ∈ defined, ∃ b : Block,
        b.IsLastIn (twoStepSolver ++ otherInputSolver) ∧ b.definition = solver.2) ∧
      ¬ FailsUnshown (vocabularyOf identityFunction []) [] defined ∧
      List.Forall₂ (IsShown (vocabularyOf identityFunction []) defined)
        (defined.filter fun solver => !passes (vocabularyOf identityFunction []) solver) failures ∧
      checkFormat (twoStepSolver ++ otherInputSolver) identityFunction [] (fun _ => "") =
        (failures.flatMap (Misformat.shown fun _ => "") ++
          [countLine (defined.countP (passes (vocabularyOf identityFunction []))) 2], none) := by
  have plain : PlainFunctions (twoStepSolver ++ otherInputSolver) := by decide +kernel
  have two : (solverNames (twoStepSolver ++ otherInputSolver)).length = 2 := by decide +kernel
  have finished :
      (checkFormat (twoStepSolver ++ otherInputSolver) identityFunction [] fun _ => "").2 = none := by
    decide +kernel
  obtain ⟨defined, -, -, own, early, late⟩ :=
    format_check_outcome plain.named identityFunction [] fun _ => ""
  have shown : ¬ FailsUnshown (vocabularyOf identityFunction []) [] defined := by
    intro unshown
    rw [early unshown] at finished
    cases finished
  rw [two] at late
  obtain ⟨failures, hshown, printed⟩ := late shown
  refine ⟨plain, defined, failures, fun solver hsolver => ?_, shown, hshown, printed⟩
  obtain ⟨b, last, -, hlines, -⟩ := own plain solver hsolver
  exact ⟨b, last, hlines⟩

example : checkFormat (twoStepSolver ++ otherInputSolver) identityFunction [] (fun _ => "") =
    (["Error in solve_c: identity(x1)", "", "O = identity(x1)", "1 out of 2 solvers formatted correctly."],
      none) := by
  decide +kernel

example : checkFormat (otherInputSolver ++ twoStepSolver) identityFunction [] (fun _ => "") =
    ([], some .unsetName) := by
  decide +kernel

end Source

end GridPuzzle
