import GridPuzzle.Proofs.ProgramRun
import GridPuzzle.Task.Score
import Mathlib.Algebra.GroupWithZero.Nat

/-!
# What a score counts

A score starts with the number of tasks and goes down by one with every example that is missed. A task is
solved if none of its examples is missed, so the first miss of a task takes the task out of the count and
every further one takes out a task that was never in it. `score_counts_every_miss` says so for all data sets
on which the programs run: the count is the number of solved tasks less the surplus misses, and it is the
number of solved tasks exactly if no task is missed twice.
-/

namespace GridPuzzle

namespace Task

/-- The program gives a result on the example, and the output to compare it with is there. -/
def Example.Runs (program : Program) (ex : Example) : Prop :=
  ∃ input output solved, ex.input = some input ∧ ex.output = some output ∧
    program.run input = .ok solved

/-- Whether the program's result on the example is the expected output. -/
def Example.isSolved (program : Program) (ex : Example) : Bool :=
  match ex.input, ex.output with
  | some input, some output =>
    match program.run input with
    | .ok solved => solved == output
    | .error _ => false
  | _, _ => false

/-- Whether the program of a task solves an example. -/
def solves (task : String) (ex : Example) : Bool :=
  (program? task).any fun program => ex.isSolved program

/-- The tasks that have examples, in order. -/
def ExampleSet.tasks (set : ExampleSet) : List String :=
  set.map (·.1)

section

variable (train test : ExampleSet)

/-- The examples of a task, those to train on before those to test on. -/
def examplesOf (task : String) : List Example :=
  (train.lookup task).getD [] ++ (test.lookup task).getD []

/-- The number of examples of a task that its program misses. -/
def missCount (task : String) : Nat :=
  (examplesOf train test task).countP fun ex => !solves task ex

/-- The number of tasks all of whose examples are solved. -/
def solvedTasks : Nat :=
  train.tasks.countP fun task => (examplesOf train test task).all (solves task)

/-- The number of misses that are not the first miss of their task. -/
def surplusMisses : Nat :=
  (train.tasks.map fun task => missCount train test task - 1).sum

/-- The programs of the catalogue can be scored on the examples: no task is listed twice, each task has
examples to test on and a program, and the program gives a result on each example. -/
structure Scorable : Prop where
  nodup : train.tasks.Nodup
  tested : ∀ task ∈ train.tasks, task ∈ test.tasks
  runs : ∀ task ∈ train.tasks, ∃ program, program? task = some program ∧
    ∀ ex ∈ examplesOf train test task, ex.Runs program

end

/-! ## The misses of one task -/

/-- A program that runs on all examples yields one miss for each that it does not solve. -/
theorem exists_misses (task : String) {program : Program} {numbered : List (Nat × Example)}
    (runs : ∀ p ∈ numbered, p.2.Runs program) :
    ∃ found, misses task program numbered = .ok found ∧
      found.length = numbered.countP fun p => !p.2.isSolved program := by
  induction numbered with
  | nil => exact ⟨[], rfl, rfl⟩
  | cons p rest ih =>
      obtain ⟨index, ex⟩ := p
      obtain ⟨others, hothers, hlength⟩ := ih fun q hq => runs q (List.mem_cons_of_mem _ hq)
      obtain ⟨input, output, solved, hinput, houtput, hrun⟩ : ex.Runs program :=
        runs (index, ex) List.mem_cons_self
      have same : ex.isSolved program = (solved == output) := by
        simp only [Example.isSolved, hinput, houtput, hrun]
      refine ⟨if solved == output then others else ⟨task, index, input, output, solved⟩ :: others,
        ?_, ?_⟩
      · simp [misses, hinput, houtput, hrun, hothers]
      · rw [List.countP_cons, ← hlength, same]
        cases solved == output <;> rfl

theorem map_snd_indexed {α : Type} (xs : List α) : (Table.indexed xs).map (·.2) = xs := by
  simp [Table.indexed, Function.comp_def]

/-- The misses of the examples of a task. -/
theorem exists_misses_examplesOf {train test : ExampleSet} (h : Scorable train test) {task : String}
    (htask : task ∈ train.tasks) :
    ∃ program found, program? task = some program ∧
      misses task program (Table.indexed (examplesOf train test task)) = .ok found ∧
      found.length = missCount train test task := by
  obtain ⟨program, hprogram, runs⟩ := h.runs task htask
  have known : ∀ ex, solves task ex = ex.isSolved program := fun ex => by
    simp [solves, hprogram]
  have numbered : ∀ p ∈ Table.indexed (examplesOf train test task), p.2.Runs program := by
    intro p hp
    refine runs p.2 ?_
    rw [← map_snd_indexed (examplesOf train test task)]
    exact List.mem_map_of_mem hp
  obtain ⟨found, hfound, hlength⟩ := exists_misses task numbered
  refine ⟨program, found, hprogram, hfound, ?_⟩
  calc found.length
      = ((Table.indexed (examplesOf train test task)).map (·.2)).countP
          fun ex => !ex.isSolved program := by rw [hlength, List.countP_map]; rfl
    _ = missCount train test task := by rw [map_snd_indexed, missCount]; simp only [known]

/-! ## The misses of all tasks -/

theorem lookup_eq_of_mem {set : ExampleSet} (nodup : set.tasks.Nodup) {task : String}
    {examples : List Example} (h : (task, examples) ∈ set) : set.lookup task = some examples := by
  induction set with
  | nil => cases h
  | cons entry rest ih =>
      obtain ⟨first, nodup⟩ := List.nodup_cons.mp nodup
      rcases List.mem_cons.mp h with rfl | h
      · simp
      · have ne : (task == entry.1) = false := by
          rw [beq_eq_false_iff_ne]
          intro heq
          exact first (List.mem_map.mpr ⟨_, h, heq⟩)
        rw [List.lookup_cons, ne]
        exact ih nodup h

theorem exists_lookup_of_mem {set : ExampleSet} {task : String} (h : task ∈ set.tasks) :
    ∃ examples, set.lookup task = some examples := by
  rw [← Option.isSome_iff_exists, List.lookup_isSome_iff]
  obtain ⟨entry, hentry, rfl⟩ := List.mem_map.mp h
  exact ⟨entry, hentry, by simp⟩

/-- Some of the tasks are gone through, each with its misses. -/
theorem exists_mapM_misses {train test : ExampleSet} (h : Scorable train test)
    {entries : ExampleSet} (hentries : ∀ entry ∈ entries, entry ∈ train) :
    ∃ all, (entries.mapM fun (task, examples) => do
        let test ← Outcome.ofOption .missingKey (some test)
        let more ← Outcome.ofOption .missingKey (test.lookup task)
        let program ← Outcome.ofOption .unsupported (program? task)
        misses task program (Table.indexed (examples ++ more))) = .ok all ∧
      all.length = entries.tasks.length ∧
      all.flatten.length = (entries.tasks.map (missCount train test)).sum := by
  induction entries with
  | nil => exact ⟨[], rfl, rfl, rfl⟩
  | cons entry rest ih =>
      obtain ⟨task, examples⟩ := entry
      obtain ⟨all, hall, hlength, hmisses⟩ := ih fun e he => hentries e (List.mem_cons_of_mem _ he)
      have hentry : (task, examples) ∈ train := hentries _ List.mem_cons_self
      have htask : task ∈ train.tasks := List.mem_map_of_mem hentry
      obtain ⟨more, hmore⟩ := exists_lookup_of_mem (h.tested task htask)
      have hexamples : examplesOf train test task = examples ++ more := by
        rw [examplesOf, lookup_eq_of_mem h.nodup hentry, hmore, Option.getD_some, Option.getD_some]
      obtain ⟨program, found, hprogram, hfound, hcount⟩ := exists_misses_examplesOf h htask
      rw [hexamples] at hfound
      refine ⟨found :: all, ?_, ?_, ?_⟩
      · rw [List.mapM_cons, hall]
        simp [hmore, hprogram, hfound]
      · simpa [ExampleSet.tasks] using hlength
      · rw [List.flatten_cons, List.length_append, hcount, hmisses]
        rfl

/-! ## The count -/

/-- One task: it counts for one and its misses are taken off. -/
theorem one_sub_missCount (train test : ExampleSet) (task : String) :
    (1 : Int) - missCount train test task =
      (if (examplesOf train test task).all (solves task) then 1 else 0) -
        ((missCount train test task - 1 : Nat) : Int) := by
  have zero_iff : missCount train test task = 0 ↔
      (examplesOf train test task).all (solves task) = true := by
    simp [missCount, List.countP_eq_zero]
  split
  next solved =>
    rw [zero_iff.mpr solved]
  next missed =>
    have pos : missCount train test task ≠ 0 := fun zero => missed (zero_iff.mp zero)
    omega

/-- The number of tasks less the number of misses. -/
theorem length_sub_sum_missCount (train test : ExampleSet) (tasks : List String) :
    (tasks.length : Int) - ((tasks.map (missCount train test)).sum : Nat) =
      (tasks.countP fun task => (examplesOf train test task).all (solves task) : Nat) -
        ((tasks.map fun task => missCount train test task - 1).sum : Nat) := by
  induction tasks with
  | nil => rfl
  | cons task rest ih =>
      have first := one_sub_missCount train test task
      rw [List.countP_cons]
      simp only [List.length_cons, List.map_cons, List.sum_cons]
      by_cases solved : (examplesOf train test task).all (solves task) = true
      · rw [if_pos solved] at first ⊢
        omega
      · rw [if_neg solved] at first ⊢
        omega

theorem surplusMisses_eq_zero_iff {train test : ExampleSet} :
    surplusMisses train test = 0 ↔ ∀ task ∈ train.tasks, missCount train test task ≤ 1 := by
  simp [surplusMisses, List.sum_eq_zero_iff_forall_eq_nat, Nat.sub_eq_zero_iff_le]

/-- **A score counts every miss.** Where the programs can be scored, the line that is printed tells the
number of solved tasks less the surplus misses. It is the number of solved tasks exactly if no task has more
than one miss; it never exceeds the number of tasks. -/
theorem score_counts_every_miss {train test : ExampleSet} (h : Scorable train test) :
    ∃ s, score ⟨some train, some test⟩ = .ok s ∧
      s.line = s!"{s.solved} out of {train.tasks.length} tasks solved correctly." ∧
      s.solved = (solvedTasks train test : Int) - surplusMisses train test ∧
      s.solved ≤ train.tasks.length ∧
      (s.solved = solvedTasks train test ↔
        ∀ task ∈ train.tasks, missCount train test task ≤ 1) := by
  obtain ⟨all, hall, hlength, hmisses⟩ := exists_mapM_misses h fun _ he => he
  have solved := length_sub_sum_missCount train test train.tasks
  rw [← hmisses, ← hlength] at solved
  refine ⟨⟨all.length - all.flatten.length, all.length, all.flatten⟩, ?_, ?_, solved, ?_, ?_⟩
  · rw [score, missesByTask, Outcome.ofOption_some, Outcome.ok_bind, hall]
    rfl
  · rw [← hlength]
    rfl
  · rw [← hlength]
    exact Int.sub_le_self _ (Int.natCast_nonneg _)
  · rw [← surplusMisses_eq_zero_iff]
    change (all.length : Int) - all.flatten.length = _ ↔ _
    rw [solved]
    change (solvedTasks train test : Int) - surplusMisses train test = _ ↔ _
    omega

/-! ## A task that is missed twice -/

/-- A grid of one row. -/
def rowGrid (row : List Int) : Value :=
  .ofRows [row.map .int]

/-- One task whose only example wants a row as it is. The program of the task puts the row in reverse
order. -/
def keptRow : ExampleSet :=
  [("67a3c6ac", [⟨some (rowGrid [1, 2]), some (rowGrid [1, 2])⟩])]

theorem program_flipColumns : program? "67a3c6ac" = some task67a3c6ac := by
  decide +kernel

theorem run_flipColumns : task67a3c6ac.run (rowGrid [1, 2]) = .ok (rowGrid [2, 1]) :=
  Program.run_eq_ok
    (Program.gives_cons (gives_call rfl (Eval.gives_lift rfl 0)) (Program.gives_nil rfl 0))

theorem reversedRow_ne : (rowGrid [2, 1] == rowGrid [1, 2]) = false := by
  decide +kernel

theorem scorable_keptRow : Scorable keptRow keptRow where
  nodup := by decide +kernel
  tested task htask := htask
  runs task htask := by
    obtain rfl : task = "67a3c6ac" := by simpa [keptRow, ExampleSet.tasks] using htask
    refine ⟨_, program_flipColumns, fun ex hex => ?_⟩
    obtain rfl : ex = ⟨some (rowGrid [1, 2]), some (rowGrid [1, 2])⟩ := by
      simpa [keptRow, examplesOf] using hex
    exact ⟨_, _, _, rfl, rfl, run_flipColumns⟩

theorem score_keptRow_counts_every_miss :
    Scorable keptRow keptRow ∧
      ∃ s, score ⟨some keptRow, some keptRow⟩ = .ok s ∧
        s.line = s!"{s.solved} out of {keptRow.tasks.length} tasks solved correctly." ∧
        s.solved = (solvedTasks keptRow keptRow : Int) - surplusMisses keptRow keptRow ∧
        s.solved ≤ keptRow.tasks.length ∧
        (s.solved = solvedTasks keptRow keptRow ↔
          ∀ task ∈ keptRow.tasks, missCount keptRow keptRow task ≤ 1) :=
  ⟨scorable_keptRow, score_counts_every_miss scorable_keptRow⟩

/-- A task with a miss in training and another one in testing: no task is solved, and the count is not zero
but below it. -/
theorem score_of_task_missed_twice :
    Scorable keptRow keptRow ∧ solvedTasks keptRow keptRow = 0 ∧
      ∃ s, score ⟨some keptRow, some keptRow⟩ = .ok s ∧
        s.line = "-1 out of 1 tasks solved correctly." := by
  refine ⟨scorable_keptRow, ?_, ?_⟩
  · simp [solvedTasks, ExampleSet.tasks, keptRow, examplesOf, solves, program_flipColumns,
      Example.isSolved, run_flipColumns, reversedRow_ne]
  · refine ⟨⟨-1, 1, [⟨"67a3c6ac", 0, rowGrid [1, 2], rowGrid [1, 2], rowGrid [2, 1]⟩,
      ⟨"67a3c6ac", 1, rowGrid [1, 2], rowGrid [1, 2], rowGrid [2, 1]⟩]⟩, ?_, by decide +kernel⟩
    simp [score, missesByTask, keptRow, program_flipColumns, misses, Table.indexed, run_flipColumns,
      reversedRow_ne]

end Task

end GridPuzzle
