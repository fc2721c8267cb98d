import GridPuzzle.Source.Format
import GridPuzzle.Proofs.Traversal

/-!
# What a well formatted solver may refer to

The check of a solver reads each line of its body as an assignment of one call to a variable. Here is what
is known of the names on the lines of a solver that passes.

* `Statement.text_of_read`: the reading of a line gives its text back, so it loses nothing of the line.
* `checkLine_iff`: what one line must satisfy, given what the lines above have assigned and called;
  `checkLines_eq_ok_iff` carries it through a body.
* A name is `Known` on a line if it is a function, a constant, the input, or a variable of a line above. The
  variable of a line counts as assigned already for the line itself, so the check also admits a line that
  uses its own variable.
-/

namespace GridPuzzle

namespace Text

/-! ## Splitting -/

theorem splitFrom_ne_nil (separator : Text) (skip : Nat) (part text : Text) :
    splitFrom separator skip part text ≠ [] := by
  induction text generalizing skip part with
  | nil => cases skip <;> simp [splitFrom]
  | cons c rest ih =>
      cases skip with
      | zero =>
          rw [splitFrom]
          split
          · exact List.cons_ne_nil _ _
          · exact ih 0 (c :: part)
      | succ skip => exact ih skip part

/-- The parts of a text, joined by the separator, are the part under way and what has not been skipped. -/
theorem intercalate_splitFrom {separator : Text} (some : separator ≠ []) (skip : Nat)
    (part text : Text) :
    separator.intercalate (splitFrom separator skip part text) = part.reverse ++ text.drop skip := by
  induction text generalizing skip part with
  | nil => cases skip <;> simp [splitFrom]
  | cons c rest ih =>
      cases skip with
      | succ skip => exact ih skip part
      | zero =>
          rw [splitFrom]
          split
          next found =>
            -- The occurrence is the separator, and what follows it is what is left to split.
            obtain ⟨tail, htail⟩ := List.isPrefixOf_iff_prefix.mp found
            obtain ⟨d, ds, rfl⟩ := List.exists_cons_of_ne_nil some
            have hrest : rest = ds ++ tail := (List.cons.inj htail).2.symm
            rw [List.intercalate_cons_of_ne_nil (splitFrom_ne_nil _ _ _ _), ih, ← htail, hrest]
            simp
          next => simp [ih]

/-- A text is its parts, joined by the separator. -/
theorem intercalate_splitOn {separator : Text} (some : separator ≠ []) (text : Text) :
    separator.intercalate (splitOn separator text) = text :=
  intercalate_splitFrom some 0 [] text

theorem eq_of_splitOn_pair {separator text a b : Text} (some : separator ≠ [])
    (h : splitOn separator text = [a, b]) : text = a ++ separator ++ b := by
  rw [← intercalate_splitOn some text, h, List.intercalate_cons_cons, List.intercalate_singleton]

end Text

namespace Source

/-! ## Lines of a body -/

/-- A line of a solver's body: a variable, the name of the function that is called, and the arguments. -/
structure Statement where
  target : Text
  function : Text
  args : List Text

namespace Statement

/-- The call of a statement, as it stands on the line. -/
def call (s : Statement) : Text :=
  s.function ++ ['('] ++ ([',', ' '].intercalate s.args ++ [')'])

/-- The line of a statement, without the blanks at its front. -/
def text (s : Statement) : Text :=
  s.target ++ [' ', '=', ' '] ++ s.call

/-- The names that a statement refers to. -/
def names (s : Statement) : List Text :=
  s.function :: s.args

/-- The statement on a line. -/
def read (line : Text) : Outcome Statement := do
  let (target, call) ← assignment line
  match Text.splitOn ['('] call with
  | [function, rest] => return ⟨target, function, ← arguments rest⟩
  | _ => throw .wrongParts

end Statement

theorem require_bind_eq_ok_iff {α : Type} {condition : Bool} {f : Unit → Outcome α} {a : α} :
    (require condition >>= f) = .ok a ↔ condition = true ∧ f () = .ok a := by
  cases condition <;> simp [require]

theorem text_of_arguments {rest : Text} {args : List Text} (h : arguments rest = .ok args) :
    rest = [',', ' '].intercalate args ++ [')'] := by
  unfold arguments at h
  split at h
  next => cases h
  next c last =>
    have ends : rest = rest.dropLast ++ [c] := (List.dropLast_append_getLast? c last).symm
    obtain ⟨closed, parts⟩ := require_bind_eq_ok_iff.mp h
    rw [ends, ← Except.ok.inj parts, beq_iff_eq.mp closed]
    split
    · rw [Text.intercalate_splitOn (by simp)]
    · rw [List.intercalate_singleton]

theorem text_of_assignment {line target call : Text} (h : assignment line = .ok (target, call)) :
    Text.trimStart line = target ++ [' ', '=', ' '] ++ call := by
  unfold assignment at h
  split at h
  next name call' parts =>
    cases h
    exact Text.eq_of_splitOn_pair (by simp) parts
  next => cases h

theorem Statement.read_eq_ok_iff {line : Text} {s : Statement} :
    read line = .ok s ↔ ∃ call rest, assignment line = .ok (s.target, call) ∧
      Text.splitOn ['('] call = [s.function, rest] ∧ arguments rest = .ok s.args := by
  unfold read
  constructor
  · intro h
    cases hline : assignment line with
    | error fault => simp [hline] at h
    | ok sides =>
        obtain ⟨target, call⟩ := sides
        simp only [hline, Outcome.ok_bind] at h
        split at h
        next function rest parts =>
          cases hargs : arguments rest with
          | error fault => simp [hargs] at h
          | ok args =>
              simp only [hargs, Outcome.ok_bind, Outcome.pure_eq_ok, Except.ok.injEq] at h
              subst h
              exact ⟨call, rest, rfl, parts, hargs⟩
        next => cases h
  · rintro ⟨call, rest, hline, parts, hargs⟩
    simp [hline, parts, hargs]

theorem Statement.call_of_parts {call rest : Text} {s : Statement}
    (parts : Text.splitOn ['('] call = [s.function, rest]) (hargs : arguments rest = .ok s.args) :
    call = s.call := by
  rw [Text.eq_of_splitOn_pair (by simp) parts, text_of_arguments hargs, Statement.call]

/-- The reading of a line loses nothing of it but the blanks at its front. -/
theorem Statement.text_of_read {line : Text} {s : Statement} (h : read line = .ok s) :
    Text.trimStart line = s.text := by
  obtain ⟨call, rest, hline, parts, hargs⟩ := read_eq_ok_iff.mp h
  rw [text_of_assignment hline, call_of_parts parts hargs, text]

/-! ## The check of one line -/

/-- What the check demands of a statement, given what the lines above have assigned and called. -/
structure Admissible (vocabulary : Vocabulary) (seen : Seen) (s : Statement) : Prop where
  not_function : s.target ∉ vocabulary.functions
  not_assigned : s.target ∉ seen.assigned
  not_called : s.call ∉ seen.calls
  function_known : s.function ∈ vocabulary.functions ∨ s.function ∈ s.target :: seen.assigned
  args_known : ∀ x ∈ s.args, x ∈ s.target :: seen.assigned ∨ x ∈ vocabulary.functions ∨
    x ∈ vocabulary.constants ∨ x = ['I']

/-- What has been seen after a statement. -/
def Seen.after (seen : Seen) (s : Statement) : Seen :=
  ⟨s.target :: seen.assigned, s.call :: seen.calls⟩

/-- A call that can be taken apart passes exactly if it makes an admissible statement. -/
theorem checkCall_statement {vocabulary : Vocabulary} {seen seen' : Seen} {s : Statement} {rest : Text}
    (parts : Text.splitOn ['('] s.call = [s.function, rest]) (hargs : arguments rest = .ok s.args) :
    checkCall vocabulary seen s.target s.call = .ok seen' ↔
      Admissible vocabulary seen s ∧ seen' = seen.after s := by
  unfold checkCall
  simp only [parts, require_bind_eq_ok_iff, hargs, Outcome.ok_bind, Outcome.pure_eq_ok,
    Except.ok.injEq, Bool.not_eq_true', List.contains_eq_mem, decide_eq_false_iff_not,
    Bool.or_eq_true, decide_eq_true_eq, List.all_eq_true, beq_iff_eq, or_assoc]
  constructor
  · rintro ⟨not_function, not_assigned, not_called, function_known, args_known, rfl⟩
    exact ⟨⟨not_function, not_assigned, not_called, function_known, args_known⟩, rfl⟩
  · rintro ⟨⟨not_function, not_assigned, not_called, function_known, args_known⟩, rfl⟩
    exact ⟨not_function, not_assigned, not_called, function_known, args_known, rfl⟩

theorem exists_parts_of_checkCall {vocabulary : Vocabulary} {seen seen' : Seen} {target call : Text}
    (h : checkCall vocabulary seen target call = .ok seen') :
    ∃ function rest args, Text.splitOn ['('] call = [function, rest] ∧ arguments rest = .ok args := by
  unfold checkCall at h
  split at h
  next function rest parts =>
    simp only [require_bind_eq_ok_iff] at h
    cases hargs : arguments rest with
    | error fault => simp [hargs] at h
    | ok args => exact ⟨function, rest, args, parts, hargs⟩
  next => cases h

/-- A line passes exactly if it holds an admissible statement. -/
theorem checkLine_iff {vocabulary : Vocabulary} {seen seen' : Seen} {line : Text} :
    (∃ target call, assignment line = .ok (target, call) ∧
      checkCall vocabulary seen target call = .ok seen') ↔
    ∃ s, Statement.read line = .ok s ∧ Admissible vocabulary seen s ∧ seen' = seen.after s := by
  constructor
  · rintro ⟨target, call, hline, h⟩
    obtain ⟨function, rest, args, parts, hargs⟩ := exists_parts_of_checkCall h
    have hcall : call = Statement.call ⟨target, function, args⟩ := Statement.call_of_parts parts hargs
    subst hcall
    exact ⟨⟨target, function, args⟩, Statement.read_eq_ok_iff.mpr ⟨_, rest, hline, parts, hargs⟩,
      (checkCall_statement parts hargs).mp h⟩
  · rintro ⟨s, hread, admissible⟩
    obtain ⟨call, rest, hline, parts, hargs⟩ := Statement.read_eq_ok_iff.mp hread
    have hcall : call = s.call := Statement.call_of_parts parts hargs
    subst hcall
    exact ⟨s.target, s.call, hline, (checkCall_statement parts hargs).mpr admissible⟩

/-! ## The check of a body -/

/-- The lines hold statements that are admissible one after the other. -/
inductive Admitted (vocabulary : Vocabulary) : Seen → List Text → Seen → Prop
  | nil (seen : Seen) : Admitted vocabulary seen [] seen
  | cons {seen last : Seen} {line : Text} {rest : List Text} {s : Statement} :
    Statement.read line = .ok s → Admissible vocabulary seen s →
    Admitted vocabulary (seen.after s) rest last → Admitted vocabulary seen (line :: rest) last

/-- The check of a body runs through exactly if its lines are admitted. -/
theorem checkLines_eq_ok_iff {vocabulary : Vocabulary} {focus : Focus} {seen last : Seen}
    {lines : List Text} :
    (checkLines vocabulary focus seen lines).2 = .ok last ↔ Admitted vocabulary seen lines last := by
  induction lines generalizing focus seen with
  | nil =>
      constructor
      · intro h
        cases h
        exact .nil _
      · intro h
        cases h
        rfl
  | cons line rest ih =>
      constructor
      · intro h
        cases hline : assignment line with
        | error fault => simp [checkLines, hline] at h
        | ok sides =>
            obtain ⟨target, call⟩ := sides
            cases hcall : checkCall vocabulary seen target call with
            | error fault => simp [checkLines, hline, hcall] at h
            | ok seen' =>
                simp only [checkLines, hline, hcall] at h
                obtain ⟨s, hread, admissible, rfl⟩ := checkLine_iff.mp ⟨target, call, hline, hcall⟩
                exact .cons hread admissible (ih.mp h)
      · intro h
        cases h with
        | cons hread admissible hrest =>
            obtain ⟨target, call, hline, hcall⟩ := checkLine_iff.mpr ⟨_, hread, admissible, rfl⟩
            simp only [checkLines, hline, hcall]
            exact ih.mpr hrest

/-- A line assigns a variable. -/
def Assigns (line x : Text) : Prop :=
  ∃ s, Statement.read line = .ok s ∧ s.target = x

namespace Admitted

variable {vocabulary : Vocabulary} {seen last : Seen}

/-- Each line of an admitted body is admissible after the lines above it. -/
theorem split {above below : List Text} {line : Text}
    (h : Admitted vocabulary seen (above ++ line :: below) last) :
    ∃ mid s, Admitted vocabulary seen above mid ∧ Statement.read line = .ok s ∧
      Admissible vocabulary mid s := by
  induction above generalizing seen with
  | nil =>
      cases h with
      | cons hread admissible _ => exact ⟨seen, _, .nil seen, hread, admissible⟩
  | cons first above ih =>
      cases h with
      | cons hread admissible hrest =>
          obtain ⟨mid, s, habove, hline, hs⟩ := ih hrest
          exact ⟨mid, s, .cons hread admissible habove, hline, hs⟩

/-- What has been assigned after some lines: what was before, and the variables of the lines. -/
theorem mem_assigned_iff {lines : List Text} (h : Admitted vocabulary seen lines last) (x : Text) :
    x ∈ last.assigned ↔ x ∈ seen.assigned ∨ ∃ line ∈ lines, Assigns line x := by
  induction h with
  | nil => simp
  | @cons seen last line rest s hread admissible _ ih =>
      have own : Assigns line x ↔ x = s.target := by
        constructor
        · rintro ⟨s', hread', rfl⟩
          rw [hread] at hread'
          rw [Except.ok.inj hread']
        · rintro rfl
          exact ⟨s, hread, rfl⟩
      rw [ih]
      simp [Seen.after, own, or_assoc, or_left_comm]

end Admitted

/-! ## The names that a line may use -/

/-- A name that may be used below some lines: a function, a constant, the input, or a variable that one of
the lines assigns. -/
def Known (vocabulary : Vocabulary) (above : List Text) (x : Text) : Prop :=
  x ∈ vocabulary.functions ∨ x ∈ vocabulary.constants ∨ x = ['I'] ∨ ∃ line ∈ above, Assigns line x

namespace Admissible

variable {vocabulary : Vocabulary} {mid : Seen} {s : Statement} {above : List Text}
  (hmid : ∀ x, x ∈ mid.assigned ↔ ∃ line ∈ above, Assigns line x)

include hmid

theorem known_or_target (h : Admissible vocabulary mid s) :
    ∀ x ∈ s.names, Known vocabulary above x ∨ x = s.target := by
  intro x hx
  rcases List.mem_cons.mp hx with rfl | hx
  · rcases h.function_known with function | assigned
    · exact .inl (.inl function)
    · rcases List.mem_cons.mp assigned with own | assigned
      · exact .inr own
      · exact .inl (.inr (.inr (.inr ((hmid _).mp assigned))))
  · rcases h.args_known x hx with assigned | function | constant | input
    · rcases List.mem_cons.mp assigned with own | assigned
      · exact .inr own
      · exact .inl (.inr (.inr (.inr ((hmid _).mp assigned))))
    · exact .inl (.inl function)
    · exact .inl (.inr (.inl constant))
    · exact .inl (.inr (.inr (.inl input)))

/-- The variable of a line is not known above it, unless it is also a constant or the input. -/
theorem known_target_iff (h : Admissible vocabulary mid s) :
    Known vocabulary above s.target ↔ s.target ∈ vocabulary.constants ∨ s.target = ['I'] := by
  constructor
  · rintro (function | constant | input | assigned)
    · exact absurd function h.not_function
    · exact .inl constant
    · exact .inr input
    · exact absurd ((hmid _).mpr assigned) h.not_assigned
  · rintro (constant | input)
    · exact .inr (.inl constant)
    · exact .inr (.inr (.inl input))

/-- All names of a line are known above it exactly if the line does not use its own variable, or uses it as
a constant or as the input. -/
theorem forall_known_iff (h : Admissible vocabulary mid s) :
    (∀ x ∈ s.names, Known vocabulary above x) ↔
      (s.target ∈ s.names → s.target ∈ vocabulary.constants ∨ s.target = ['I']) := by
  rw [← h.known_target_iff hmid]
  constructor
  · intro known own
    exact known _ own
  · intro own x hx
    rcases h.known_or_target hmid x hx with known | rfl
    · exact known
    · exact own hx

end Admissible

/-! ## Counting -/

/-- The lines of a solver that are checked one by one: those between the first line and the last. -/
def Definition.body (d : Definition) : List Text :=
  d.lines.tail.dropLast

/-- Whether a solver passes the check. -/
def passes (vocabulary : Vocabulary) (solver : Text × Definition) : Bool :=
  (checkSolver vocabulary {} solver.1 solver.2).2.isOk

theorem checkLines_snd (vocabulary : Vocabulary) (focus focus' : Focus) (seen : Seen)
    (lines : List Text) :
    (checkLines vocabulary focus seen lines).2 = (checkLines vocabulary focus' seen lines).2 := by
  cases lines with
  | nil => rfl
  | cons line rest =>
      unfold checkLines
      cases assignment line with
      | error fault => rfl
      | ok sides => cases hcall : checkCall vocabulary seen sides.1 sides.2 <;> simp only [hcall]

/-- What was looked at before a solver does not decide whether it passes. -/
theorem checkSolver_snd (vocabulary : Vocabulary) (focus focus' : Focus) (name : Text) (d : Definition) :
    (checkSolver vocabulary focus name d).2 = (checkSolver vocabulary focus' name d).2 := by
  unfold checkSolver
  split
  · have same := checkLines_snd vocabulary focus focus' {} d.lines.tail.dropLast
    cases hlines : checkLines vocabulary focus {} d.lines.tail.dropLast with
    | mk _ checked =>
        cases hlines' : checkLines vocabulary focus' {} d.lines.tail.dropLast with
        | mk _ checked' =>
            rw [hlines, hlines'] at same
            cases same
            rfl
  · rfl

theorem admitted_of_passes {vocabulary : Vocabulary} {name : Text} {d : Definition}
    (h : passes vocabulary (name, d) = true) : ∃ last, Admitted vocabulary {} d.body last := by
  unfold passes checkSolver at h
  split at h
  · cases hlines : (checkLines vocabulary {} {} d.lines.tail.dropLast).2 with
    | error fault =>
        simp only [hlines, Outcome.error_bind] at h
        cases h
    | ok last => exact ⟨last, checkLines_eq_ok_iff.mp hlines⟩
  · cases h

/-- A check that runs to its end counts the solvers that pass. -/
theorem passed_checkSolvers {vocabulary : Vocabulary} {focus : Focus} {report : FormatReport}
    {defined : List (Text × Definition)}
    (h : (checkSolvers vocabulary focus report defined).stopped = false) :
    (checkSolvers vocabulary focus report defined).passed =
      report.passed + defined.countP (passes vocabulary) := by
  induction defined generalizing focus report with
  | nil => rfl
  | cons solver rest ih =>
      obtain ⟨name, d⟩ := solver
      have outcome : passes vocabulary (name, d) = (checkSolver vocabulary focus name d).2.isOk := by
        rw [passes, checkSolver_snd vocabulary focus {}]
      cases hcheck : checkSolver vocabulary focus name d with
      | mk focus' result =>
          rw [hcheck] at outcome
          cases result with
          | ok =>
              simp only [checkSolvers, hcheck] at h ⊢
              rw [ih h, List.countP_cons_of_pos outcome]
              exact Nat.add_right_comm _ 1 _
          | error fault =>
              have failed : ¬ passes vocabulary (name, d) = true := by rw [outcome]; exact Bool.false_ne_true
              cases hcall : focus'.call with
              | none => simp [checkSolvers, hcheck, hcall] at h
              | some call =>
                  simp only [checkSolvers, hcheck, hcall] at h ⊢
                  rw [ih h, List.countP_cons_of_neg failed]

/-- The vocabulary that a text of functions and a text of constants give. -/
def vocabularyOf (functions constants : Text) : Vocabulary :=
  ⟨functionNames functions, constantNames constants⟩

/-- The names of the solvers that a text defines. -/
def solverNames (solvers : Text) : List Text :=
  (functionNames solvers).eraseDups

/-- Whether the check counts the solver of a name as formatted correctly. -/
def counted (solvers functions constants name : Text) : Bool :=
  match definition solvers name with
  | .ok d => passes (vocabularyOf functions constants) (name, d)
  | .error _ => false

theorem countP_definitions {solvers functions constants : Text} {names : List Text}
    {defined : List (Text × Definition)}
    (h : (names.mapM fun name => return (name, ← definition solvers name)) = .ok defined) :
    defined.countP (passes (vocabularyOf functions constants)) =
      names.countP (counted solvers functions constants) := by
  induction names generalizing defined with
  | nil =>
      cases h
      rfl
  | cons name names ih =>
      rw [List.mapM_cons] at h
      cases hd : definition solvers name with
      | error fault =>
          rw [hd] at h
          cases h
      | ok d =>
          rw [hd, Outcome.ok_bind, pure_bind] at h
          cases hrest : (names.mapM fun name => return (name, ← definition solvers name)) with
          | error fault =>
              rw [hrest] at h
              cases h
          | ok rest =>
              rw [hrest] at h
              cases h
              have same : counted solvers functions constants name =
                  passes (vocabularyOf functions constants) (name, d) := by rw [counted, hd]
              rw [List.countP_cons, List.countP_cons, ih hrest, same]

/-- The line that tells how many of the solvers are formatted correctly. -/
def countLine (passed total : Nat) : String :=
  s!"{passed} out of {total} solvers formatted correctly."

/-- A check that runs to its end prints how many solvers it counts. -/
theorem printed_count {solvers functions constants : Text} {word : Fault → String}
    {printed : List String} (h : checkFormat solvers functions constants word = (printed, none)) :
    printed.getLast? = some (countLine
      ((solverNames solvers).countP (counted solvers functions constants))
      (solverNames solvers).length) := by
  unfold checkFormat at h
  dsimp only at h
  split at h
  next fault _ => cases h
  next defined hdefined =>
    obtain ⟨rfl, hstopped⟩ := Prod.mk.inj h
    have finished : (checkSolvers (vocabularyOf functions constants) {} {} defined).stopped = false := by
      by_contra stopped
      rw [Bool.not_eq_false] at stopped
      rw [vocabularyOf] at stopped
      simp [stopped] at hstopped
    have count := passed_checkSolvers finished
    rw [countP_definitions hdefined, vocabularyOf, Nat.zero_add] at count
    rw [vocabularyOf] at finished
    rw [FormatReport.lines, finished, if_neg Bool.false_ne_true, List.getLast?_concat, count]
    rfl

/-- **The names on the lines of a solver that is counted.** The check prints how many solvers it counts. If
it counts a solver, each line between the first and the last one holds a statement, and every name on the
line, the function that is called or an argument, is known above the line or is the variable that the line
itself assigns. All of them are known above the line exactly if the line does not use its own variable, a
variable with the name of a constant or of the input apart. -/
theorem counted_solver_names (solvers functions constants : Text) (word : Fault → String) :
    (∀ printed, checkFormat solvers functions constants word = (printed, none) →
      printed.getLast? = some (countLine
        ((solverNames solvers).countP (counted solvers functions constants))
        (solverNames solvers).length)) ∧
    ∀ name, counted solvers functions constants name = true →
      ∃ d, definition solvers name = .ok d ∧
        ∀ above line below, d.body = above ++ line :: below →
          ∃ s, Statement.read line = .ok s ∧ Text.trimStart line = s.text ∧
            (∀ x ∈ s.names, Known (vocabularyOf functions constants) above x ∨ x = s.target) ∧
            ((∀ x ∈ s.names, Known (vocabularyOf functions constants) above x) ↔
              (s.target ∈ s.names → s.target ∈ constantNames constants ∨ s.target = ['I'])) := by
  refine ⟨fun printed h => printed_count h, fun name h => ?_⟩
  unfold counted at h
  split at h
  next d hd =>
    obtain ⟨last, admitted⟩ := admitted_of_passes h
    refine ⟨d, hd, fun above line below hbody => ?_⟩
    rw [hbody] at admitted
    obtain ⟨mid, s, habove, hread, admissible⟩ := admitted.split
    have hmid : ∀ x, x ∈ mid.assigned ↔ ∃ line ∈ above, Assigns line x := by
      intro x
      rw [habove.mem_assigned_iff x]
      simp
    exact ⟨s, hread, Statement.text_of_read hread, admissible.known_or_target hmid,
      admissible.forall_known_iff hmid⟩
  next => cases h

/-- A text that defines one function. -/
def identityFunction : Text :=
  "def identity(x):\n    return x\n".toList

/-- A solver of two statements. -/
def twoStepSolver : Text :=
  "def solve_b(I):\n    x1 = identity(I)\n    O = identity(x1)\n    return O\n".toList

theorem counted_twoStepSolver :
    counted twoStepSolver identityFunction [] "solve_b".toList = true ∧
    ∃ d, definition twoStepSolver "solve_b".toList = .ok d ∧
      ∀ above line below, d.body = above ++ line :: below →
        ∃ s, Statement.read line = .ok s ∧ Text.trimStart line = s.text ∧
          (∀ x ∈ s.names, Known (vocabularyOf identityFunction []) above x ∨ x = s.target) ∧
          ((∀ x ∈ s.names, Known (vocabularyOf identityFunction []) above x) ↔
            (s.target ∈ s.names → s.target ∈ constantNames [] ∨ s.target = ['I'])) := by
  have counts : counted twoStepSolver identityFunction [] "solve_b".toList = true := by decide +kernel
  exact ⟨counts, (counted_solver_names twoStepSolver identityFunction [] fun _ => "").2 _ counts⟩

/-- A solver whose first line uses its own variable. -/
def ownVariableSolver : Text :=
  "def solve_a(I):\n    x1 = identity(x1)\n    return x1\n".toList

/-- A solver that uses its own variable on the line that assigns it is counted, although the variable is not
known there. -/
theorem counted_ownVariableSolver :
    counted ownVariableSolver identityFunction [] "solve_a".toList = true ∧
    ∃ d above line below s, definition ownVariableSolver "solve_a".toList = .ok d ∧
      d.body = above ++ line :: below ∧ Statement.read line = .ok s ∧
      ∃ x ∈ s.names, ¬ Known (vocabularyOf identityFunction []) above x := by
  refine ⟨by decide +kernel, ⟨"solve_a".toList, ["def solve_a(I):".toList,
    "    x1 = identity(x1)".toList, "    return x1".toList]⟩, [], "    x1 = identity(x1)".toList, [],
    ⟨"x1".toList, "identity".toList, ["x1".toList]⟩, rfl, rfl, rfl, "x1".toList, by decide, ?_⟩
  have functions : "x1".toList ∉ functionNames identityFunction := by decide +kernel
  have constants : "x1".toList ∉ constantNames [] := by decide +kernel
  rintro (function | constant | input | ⟨line, hline, -⟩)
  · exact functions function
  · exact constants constant
  · cases input
  · cases hline

end Source

end GridPuzzle
