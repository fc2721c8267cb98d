import GridPuzzle.Task.Loading
import GridPuzzle.Proofs.Traversal
import Mathlib.Data.List.DropRight
import Mathlib.Data.List.Nodup

/-!
# The tasks that a directory of data files gives

The entry of a file in a loaded set stands under the name of the file without the letters of its extension, as
many of them as stand at the end of the name. So a task may get another name than its file, and of several
files that come to the same name only the last one has an entry.

* `Dictionary.mem_keys_ofList`, `Dictionary.mem_ofList_of_last`: the entries of a list, set one after the other,
  have the keys of the list, and of the entries with one key the last stays.
* `Task.TaskFile.loadDirectory_entries`: files whose texts hold examples (`Task.contents?`) are always loaded, and
  the entries are those of the files that are kept.
* `Task.isStem_iff`: the task of a file, said without the way it is found. A file keeps its name exactly if the
  name does not end with one of the letters (`Task.taskOf_eq_self_iff`).
-/

namespace GridPuzzle

/-! ## Entries that are set one after the other -/

namespace Dictionary

variable {κ α β : Type} [BEq κ] [LawfulBEq κ] {key : κ} {value : α} {d entries : List (κ × α)}

theorem set_of_new (h : key ∉ d.map Prod.fst) : set key value d = d ++ [(key, value)] := by
  induction d with
  | nil => rfl
  | cons entry rest ih =>
      rw [List.map_cons, List.mem_cons, not_or] at h
      have other : ¬ (entry.1 == key) = true := fun same => h.1 (beq_iff_eq.mp same).symm
      rw [set, if_neg other, ih h.2, List.cons_append]

theorem keys_set_of_old (h : key ∈ d.map Prod.fst) : (set key value d).map Prod.fst = d.map Prod.fst := by
  induction d with
  | nil => cases h
  | cons entry rest ih =>
      rw [set]
      split
      next => rfl
      next other =>
        rw [List.map_cons, List.mem_cons] at h
        rcases h with same | h
        · exact absurd (beq_iff_eq.mpr same.symm) other
        · rw [List.map_cons, List.map_cons, ih h]

theorem nodup_keys_set (nodup : (d.map Prod.fst).Nodup) : ((set key value d).map Prod.fst).Nodup := by
  by_cases h : key ∈ d.map Prod.fst
  · rwa [keys_set_of_old h]
  · rw [set_of_new h, List.map_append, List.map_singleton, ← List.concat_eq_append]
    exact nodup.concat h

theorem mem_keys_set {k : κ} : k ∈ (set key value d).map Prod.fst ↔ k ∈ d.map Prod.fst ∨ k = key := by
  by_cases h : key ∈ d.map Prod.fst
  · rw [keys_set_of_old h]
    exact ⟨.inl, fun hk => hk.elim id fun same => same ▸ h⟩
  · rw [set_of_new h, List.map_append, List.map_singleton, List.mem_append, List.mem_singleton]

theorem mem_set_self : (key, value) ∈ set key value d := by
  induction d with
  | nil => exact List.mem_cons_self
  | cons entry rest ih =>
      rw [set]
      split
      next same =>
        rw [beq_iff_eq.mp same]
        exact List.mem_cons_self
      next => exact List.mem_cons_of_mem _ ih

theorem mem_set_of_ne {entry : κ × α} (h : entry ∈ d) (ne : entry.1 ≠ key) : entry ∈ set key value d := by
  induction d with
  | nil => cases h
  | cons first rest ih =>
      rw [set]
      rcases List.mem_cons.mp h with rfl | h
      · rw [if_neg fun same => ne (beq_iff_eq.mp same)]
        exact List.mem_cons_self
      · split
        · exact List.mem_cons_of_mem _ h
        · exact List.mem_cons_of_mem _ (ih h)

omit [LawfulBEq κ] in
theorem set_map (f : α → β) :
    set key (f value) (d.map fun e => (e.1, f e.2)) = (set key value d).map fun e => (e.1, f e.2) := by
  induction d with
  | nil => rfl
  | cons entry rest ih =>
      rw [List.map_cons, set, set, ih]
      split <;> rfl

omit [LawfulBEq κ] in
theorem ofList_concat (entry : κ × α) : ofList (entries ++ [entry]) = set entry.1 entry.2 (ofList entries) :=
  List.foldl_concat ..

variable (entries)

theorem nodup_keys_ofList : ((ofList entries).map Prod.fst).Nodup := by
  induction entries using List.reverseRecOn with
  | nil => exact List.nodup_nil
  | append_singleton entries entry ih =>
      rw [ofList_concat]
      exact nodup_keys_set ih

theorem mem_keys_ofList {k : κ} : k ∈ (ofList entries).map Prod.fst ↔ k ∈ entries.map Prod.fst := by
  induction entries using List.reverseRecOn with
  | nil => rfl
  | append_singleton entries entry ih =>
      rw [ofList_concat, mem_keys_set, ih, List.map_append, List.mem_append, List.map_singleton,
        List.mem_singleton]

omit [LawfulBEq κ] in
theorem ofList_map (f : α → β) :
    ofList (entries.map fun e => (e.1, f e.2)) = (ofList entries).map fun e => (e.1, f e.2) := by
  induction entries using List.reverseRecOn with
  | nil => rfl
  | append_singleton entries entry ih =>
      rw [List.map_append, List.map_singleton, ofList_concat, ofList_concat, ih]
      exact set_map f

variable {entries}

/-- Entries with distinct keys all stay, and in their order. -/
theorem ofList_of_nodup (nodup : (entries.map Prod.fst).Nodup) : ofList entries = entries := by
  induction entries using List.reverseRecOn with
  | nil => rfl
  | append_singleton entries entry ih =>
      rw [List.map_append, List.map_singleton, ← List.concat_eq_append, List.nodup_concat] at nodup
      rw [ofList_concat, ih nodup.2, set_of_new nodup.1]

/-- Of the entries with one key the last stays. -/
theorem mem_ofList_of_last {before after : List (κ × α)} {entry : κ × α} (last : entry.1 ∉ after.map Prod.fst) :
    entry ∈ ofList (before ++ entry :: after) := by
  induction after using List.reverseRecOn with
  | nil =>
      rw [ofList_concat]
      exact mem_set_self
  | append_singleton after other ih =>
      rw [List.map_append, List.mem_append, not_or, List.map_singleton, List.mem_singleton] at last
      rw [← List.cons_append, ← List.append_assoc, ofList_concat]
      exact mem_set_of_ne (ih last.1) last.2

end Dictionary

/-! ## What the text of a task holds -/

namespace Document

def number? : Document → Option Int
  | .int n => some n
  | _ => none

def row? : Document → Option (List Int)
  | .list items => items.mapM number?
  | _ => none

/-- The grid that a document is: a list of rows, each a list of whole numbers. -/
def grid? : Document → Option (List (List Int))
  | .list rows => rows.mapM row?
  | _ => none

end Document

namespace Task

/-- An example of a task: a grid and what becomes of it. -/
structure GridPair where
  input : List (List Int)
  output : List (List Int)
  deriving DecidableEq

/-- The examples of a task. -/
structure Contents where
  train : List GridPair
  test : List GridPair
  deriving DecidableEq

def pair? (d : Document) : Option GridPair := do
  let input ← (← (d.member "input".toList).toOption).grid?
  return ⟨input, ← (← (d.member "output".toList).toOption).grid?⟩

/-- The examples that a document lists under a key. -/
def pairs? (part : Text) (d : Document) : Option (List GridPair) := do
  match ← (d.member part).toOption with
  | .list items => items.mapM pair?
  | _ => none

/-- The examples that a text holds, if it is well formed. -/
def contents? (text : Text) : Option Contents := do
  let d ← (Document.read text).toOption
  return ⟨← pairs? "train".toList d, ← pairs? "test".toList d⟩

/-- A data file with the examples of one task. -/
structure TaskFile where
  id : Text
  text : Text
  contents : Contents
  holds : contents? text = some contents

/-- The name and the text of a file. -/
def TaskFile.entry (file : TaskFile) : Text × Text :=
  (file.id ++ ".json".toList, file.text)

/-- A grid as it is loaded. -/
def loadedGrid (grid : List (List Int)) : List (List Document) :=
  grid.map (·.map .int)

/-- An example as it is loaded. -/
def GridPair.loaded (pair : GridPair) : LoadedExample :=
  ⟨loadedGrid pair.input, loadedGrid pair.output⟩

/-! ## Reading a well formed text -/

/-- If each item that has a reading is loaded as the reading says, so are all items of a list. -/
theorem mapM_of_readings {α β γ : Type} {read : α → Option β} {load : α → Outcome γ} {loaded : β → γ}
    (step : ∀ {x y}, read x = some y → load x = .ok (loaded y)) {xs : List α} {ys : List β}
    (h : xs.mapM read = some ys) : xs.mapM load = .ok (ys.map loaded) := by
  induction xs generalizing ys with
  | nil =>
      cases h
      rfl
  | cons x xs ih =>
      rw [List.mapM_cons] at h
      obtain ⟨y, hy, h⟩ := Option.bind_eq_some_iff.mp h
      obtain ⟨rest, hrest, h⟩ := Option.bind_eq_some_iff.mp h
      cases h
      rw [List.mapM_cons, step hy, ih hrest]
      rfl

theorem toOption_eq_some_iff {α : Type} {x : Outcome α} {a : α} : x.toOption = some a ↔ x = .ok a := by
  cases x <;> simp [Except.toOption]

theorem eq_int_of_number? {d : Document} {n : Int} (h : d.number? = some n) : d = .int n := by
  cases d <;> cases h
  rfl

theorem items_of_row? {d : Document} {row : List Int} (h : d.row? = some row) : d.items = .ok (row.map .int) := by
  cases d with
  | list items =>
      have same : items.mapM pure = (Except.ok (row.map .int) : Outcome _) :=
        mapM_of_readings (fun hn => congrArg Except.ok (eq_int_of_number? hn)) h
      rw [List.mapM_pure, List.map_id'] at same
      exact same
  | _ => cases h

theorem rows_of_grid? {d : Document} {grid : List (List Int)} (h : d.grid? = some grid) :
    d.rows = .ok (loadedGrid grid) := by
  cases d with
  | list rows => exact mapM_of_readings items_of_row? h
  | _ => cases h

theorem loadExample_of_pair? {d : Document} {pair : GridPair} (h : pair? d = some pair) :
    loadExample d = .ok pair.loaded := by
  obtain ⟨first, hfirst, h⟩ := Option.bind_eq_some_iff.mp h
  obtain ⟨input, hinput, h⟩ := Option.bind_eq_some_iff.mp h
  obtain ⟨second, hsecond, h⟩ := Option.bind_eq_some_iff.mp h
  obtain ⟨output, houtput, h⟩ := Option.bind_eq_some_iff.mp h
  cases h
  rw [loadExample, toOption_eq_some_iff.mp hfirst, Outcome.ok_bind, rows_of_grid? hinput, Outcome.ok_bind,
    toOption_eq_some_iff.mp hsecond, Outcome.ok_bind, rows_of_grid? houtput]
  rfl

theorem loadPart_of_pairs? {part : Text} {d : Document} {pairs : List GridPair} (h : pairs? part d = some pairs) :
    loadPart part d = .ok (pairs.map GridPair.loaded) := by
  obtain ⟨listed, hlisted, h⟩ := Option.bind_eq_some_iff.mp h
  rw [loadPart, toOption_eq_some_iff.mp hlisted, Outcome.ok_bind]
  cases listed with
  | list items => exact mapM_of_readings loadExample_of_pair? h
  | _ => cases h

theorem loadDirectory_eq_ok {files : Directory} {documents : List (Text × Document)}
    {train test : List (Text × List LoadedExample)}
    (hread : (files.mapM fun e => return (taskOf e.1, ← Document.read e.2)) = .ok documents)
    (htrain : ((Dictionary.ofList documents).mapM fun e => return (e.1, ← loadPart "train".toList e.2)) = .ok train)
    (htest : ((Dictionary.ofList documents).mapM fun e => return (e.1, ← loadPart "test".toList e.2)) = .ok test) :
    loadDirectory files = .ok ⟨train, test⟩ := by
  have stages : loadDirectory files = (do
      let documents ← files.mapM fun e => return (taskOf e.1, ← Document.read e.2)
      let train ← (Dictionary.ofList documents).mapM fun e => return (e.1, ← loadPart "train".toList e.2)
      let test ← (Dictionary.ofList documents).mapM fun e => return (e.1, ← loadPart "test".toList e.2)
      return ⟨train, test⟩) := rfl
  rw [stages, hread, Outcome.ok_bind, htrain, Outcome.ok_bind, htest, Outcome.ok_bind, Outcome.pure_eq_ok]

namespace TaskFile

/-- The document in a file. -/
def document (file : TaskFile) : Document :=
  (Document.read file.text).toOption.getD .null

theorem read_text (file : TaskFile) :
    Document.read file.text = .ok file.document ∧
      loadPart "train".toList file.document = .ok (file.contents.train.map GridPair.loaded) ∧
      loadPart "test".toList file.document = .ok (file.contents.test.map GridPair.loaded) := by
  obtain ⟨d, hd, h⟩ := Option.bind_eq_some_iff.mp file.holds
  obtain ⟨train, htrain, h⟩ := Option.bind_eq_some_iff.mp h
  obtain ⟨test, htest, h⟩ := Option.bind_eq_some_iff.mp h
  have contents : (⟨train, test⟩ : Contents) = file.contents := Option.some.inj h
  rw [document, hd, Option.getD_some, ← contents]
  exact ⟨toOption_eq_some_iff.mp hd, loadPart_of_pairs? htrain, loadPart_of_pairs? htest⟩

/-- The files that have an entry when all are loaded, by task. -/
def kept (files : List TaskFile) : List (Text × TaskFile) :=
  Dictionary.ofList (files.map fun file => (taskOf file.entry.1, file))

theorem mapM_loadPart_kept {part : Text} {examples : TaskFile → List LoadedExample}
    (h : ∀ file, loadPart part file.document = .ok (examples file)) (files : List TaskFile) :
    ((Dictionary.ofList (files.map fun file => (taskOf file.entry.1, file.document))).mapM
      fun e => return (e.1, ← loadPart part e.2)) = .ok ((kept files).map fun e => (e.1, examples e.2)) := by
  have documents : Dictionary.ofList (files.map fun file => (taskOf file.entry.1, file.document)) =
      (kept files).map fun e => (e.1, e.2.document) := by
    rw [kept, ← Dictionary.ofList_map, List.map_map]
    rfl
  rw [documents, List.mapM_map]
  refine mapM_eq_pure_map fun e _ => ?_
  simp only [Function.comp_apply, h, Outcome.ok_bind]

/-- The set with the entries of the files that are kept. -/
def keptSet (files : List TaskFile) : LoadedSet where
  train := (kept files).map fun e => (e.1, e.2.contents.train.map GridPair.loaded)
  test := (kept files).map fun e => (e.1, e.2.contents.test.map GridPair.loaded)

theorem loadDirectory_entries (files : List TaskFile) :
    loadDirectory (files.map entry) = .ok (keptSet files) := by
  refine loadDirectory_eq_ok ?_ (mapM_loadPart_kept (fun file => file.read_text.2.1) files)
    (mapM_loadPart_kept (fun file => file.read_text.2.2) files)
  rw [List.mapM_map]
  refine mapM_eq_pure_map fun file _ => ?_
  simp only [Function.comp_apply, entry, file.read_text.1, Outcome.ok_bind]

end TaskFile

/-! ## The names of tasks -/

/-- What is left of a name if the letters of the extension are taken off its end, as many as stand there. -/
def IsStem (stem name : Text) : Prop :=
  ∃ letters, name = stem ++ letters ∧ (∀ c ∈ letters, c ∈ ".json".toList) ∧
    ∀ c ∈ stem.getLast?, c ∉ ".json".toList

theorem taskOf_append {name letters : Text} (h : ∀ c ∈ letters, c ∈ ".json".toList) :
    taskOf (name ++ letters) = taskOf name := by
  rw [taskOf, List.reverse_append, List.dropWhile_append_of_pos, taskOf]
  intro c hc
  exact List.contains_iff_mem.mpr (h c (List.mem_reverse.mp hc))

/-- A name stays as it is exactly if it does not end with a letter of the extension. -/
theorem taskOf_eq_self_iff {name : Text} :
    taskOf name = name ↔ ∀ c ∈ name.getLast?, c ∉ ".json".toList := by
  have self : taskOf name = name ↔ ∀ some : name ≠ [], ¬ ".json".toList.contains (name.getLast some) = true :=
    List.rdropWhile_eq_self_iff
  rw [self]
  rcases name.eq_nil_or_concat with rfl | ⟨front, c, rfl⟩
  · simp
  · simp

theorem isStem_iff {stem name : Text} : IsStem stem name ↔ taskOf name = stem := by
  refine ⟨fun h => ?_, fun h => ?_⟩
  · obtain ⟨letters, rfl, hletters, hstem⟩ := h
    rw [taskOf_append hletters, taskOf_eq_self_iff.mpr hstem]
  · subst h
    refine ⟨name.rtakeWhile (".json".toList.contains ·), List.rdropWhile_append_rtakeWhile.symm,
      fun c hc => List.contains_iff_mem.mp (List.mem_rtakeWhile_imp hc), taskOf_eq_self_iff.mp ?_⟩
    exact List.rdropWhile_idempotent _ _

namespace TaskFile

theorem taskOf_entry (file : TaskFile) : taskOf file.entry.1 = taskOf file.id :=
  taskOf_append fun _ h => h

theorem keys_keptSet (files : List TaskFile) :
    (keptSet files).train.map Prod.fst = (kept files).map Prod.fst ∧
      (keptSet files).test.map Prod.fst = (kept files).map Prod.fst := by
  rw [keptSet, List.map_map, List.map_map]
  exact ⟨rfl, rfl⟩

theorem mem_keys_kept {files : List TaskFile} {key : Text} :
    key ∈ (kept files).map Prod.fst ↔ ∃ file ∈ files, IsStem key file.id := by
  rw [kept, Dictionary.mem_keys_ofList, List.map_map, List.mem_map]
  simp only [Function.comp_apply, taskOf_entry, isStem_iff]

/-- Of the files that come to one name the last one is kept. -/
theorem mem_kept_of_last {before after : List TaskFile} {file : TaskFile} {key : Text} (h : IsStem key file.id)
    (last : ∀ other ∈ after, ¬ IsStem key other.id) : (key, file) ∈ kept (before ++ file :: after) := by
  rw [isStem_iff] at h
  subst h
  rw [kept, List.map_append, List.map_cons, taskOf_entry]
  refine Dictionary.mem_ofList_of_last fun again => ?_
  obtain ⟨e, he, same⟩ := List.mem_map.mp again
  obtain ⟨other, hother, rfl⟩ := List.mem_map.mp he
  exact last other hother (isStem_iff.mpr ((taskOf_entry other).symm.trans same))

/-- Files with distinct names that do not end with a letter of the extension are all kept under their names. -/
theorem kept_of_distinct {files : List TaskFile} (distinct : (files.map id).Nodup)
    (plain : ∀ file ∈ files, ∀ c ∈ file.id.getLast?, c ∉ ".json".toList) :
    kept files = files.map fun file => (file.id, file) := by
  have own : (files.map fun file => (taskOf file.entry.1, file)) = files.map fun file => (file.id, file) :=
    List.map_congr_left fun file hfile => by rw [taskOf_entry, taskOf_eq_self_iff.mpr (plain file hfile)]
  rw [kept, own]
  refine Dictionary.ofList_of_nodup ?_
  rwa [List.map_map]

end TaskFile

/-- The keys of a loaded set are the names of its files exactly if no name ends with a letter of the extension. -/
theorem keys_eq_ids_iff {files : List TaskFile} :
    (∀ key, (∃ file ∈ files, IsStem key file.id) ↔ key ∈ files.map TaskFile.id) ↔
      ∀ file ∈ files, ∀ c ∈ file.id.getLast?, c ∉ ".json".toList := by
  refine ⟨fun same file hfile => ?_, fun plain key => ?_⟩
  · -- The name of the file is what is left of a name, so it ends with none of the letters.
    obtain ⟨other, -, letters, -, -, ends⟩ := (same file.id).mpr (List.mem_map_of_mem hfile)
    exact ends
  · have own : ∀ file ∈ files, (IsStem key file.id ↔ file.id = key) := by
      intro file hfile
      rw [isStem_iff, taskOf_eq_self_iff.mpr (plain file hfile)]
    rw [List.mem_map]
    exact exists_congr fun file => and_congr_right (own file)

/-- **The tasks of a loaded set.** Files with distinct names that hold tasks are always loaded. Both parts of the
set have one entry for each name that is left when the letters of the extension are taken off the name of a
file, and it is the entry of the last file that comes to this name, with the examples in order. So the tasks
have the names of their files exactly if no name ends with a letter of the extension, and then there is one entry
for each file. -/
theorem loaded_tasks_of_files {fromTraining : Bool} {training evaluation : Option Directory}
    {files : List TaskFile}
    (chosen : (if fromTraining then training else evaluation) = some (files.map TaskFile.entry))
    (distinct : (files.map TaskFile.id).Nodup) :
    ∃ set, load fromTraining training evaluation = .ok set ∧
      (set.train.map Prod.fst).Nodup ∧ set.test.map Prod.fst = set.train.map Prod.fst ∧
      (∀ key, key ∈ set.train.map Prod.fst ↔ ∃ file ∈ files, IsStem key file.id) ∧
      (∀ before file after key, files = before ++ file :: after → IsStem key file.id →
        (∀ other ∈ after, ¬ IsStem key other.id) →
          (key, file.contents.train.map GridPair.loaded) ∈ set.train ∧
          (key, file.contents.test.map GridPair.loaded) ∈ set.test) ∧
      ((∀ key, key ∈ set.train.map Prod.fst ↔ key ∈ files.map TaskFile.id) ↔
        ∀ file ∈ files, ∀ c ∈ file.id.getLast?, c ∉ ".json".toList) ∧
      ((∀ file ∈ files, ∀ c ∈ file.id.getLast?, c ∉ ".json".toList) →
        set.train = files.map (fun file => (file.id, file.contents.train.map GridPair.loaded)) ∧
        set.test = files.map (fun file => (file.id, file.contents.test.map GridPair.loaded))) := by
  obtain ⟨trainKeys, testKeys⟩ := TaskFile.keys_keptSet files
  refine ⟨TaskFile.keptSet files, ?_, ?_, ?_, fun key => ?_, ?_, ?_, fun plain => ?_⟩
  · rw [load, chosen]
    exact TaskFile.loadDirectory_entries files
  · rw [trainKeys]
    exact Dictionary.nodup_keys_ofList _
  · rw [trainKeys, testKeys]
  · rw [trainKeys, TaskFile.mem_keys_kept]
  · intro before file after key split stem last
    have mem : (key, file) ∈ TaskFile.kept files := split ▸ TaskFile.mem_kept_of_last stem last
    exact ⟨List.mem_map.mpr ⟨_, mem, rfl⟩, List.mem_map.mpr ⟨_, mem, rfl⟩⟩
  · rw [trainKeys]
    simp only [TaskFile.mem_keys_kept]
    exact keys_eq_ids_iff
  · rw [TaskFile.keptSet, TaskFile.kept_of_distinct distinct plain, List.map_map, List.map_map]
    exact ⟨rfl, rfl⟩

/-- A file whose name ends with letters of the extension. -/
def seasonFile : TaskFile where
  id := "season".toList
  text := ("\x7b\"train\": [\x7b\"input\": [[1, 2]], \"output\": [[2, 1]]\x7d], " ++
    "\"test\": [\x7b\"input\": [[3]], \"output\": [[4]]\x7d]\x7d").toList
  contents := ⟨[⟨[[1, 2]], [[2, 1]]⟩], [⟨[[3]], [[4]]⟩]⟩
  holds := by decide +kernel

def seaFile : TaskFile where
  id := "sea".toList
  text := "\x7b\"train\": [], \"test\": []\x7d".toList
  contents := ⟨[], []⟩
  holds := by decide +kernel

/-- Two files come to the same name, and the second one alone has an entry. -/
theorem loaded_tasks_of_sea_and_season :
    ([seaFile, seasonFile].map TaskFile.id).Nodup ∧
    ∃ set, load true (some ([seaFile, seasonFile].map TaskFile.entry)) none = .ok set ∧
      (∀ key, key ∈ set.train.map Prod.fst ↔ key = "sea".toList) ∧
      ("sea".toList, seasonFile.contents.train.map GridPair.loaded) ∈ set.train := by
  have distinct : ([seaFile, seasonFile].map TaskFile.id).Nodup := by decide
  have sea : taskOf seaFile.id = "sea".toList := by decide
  have season : taskOf seasonFile.id = "sea".toList := by decide
  have chosen : (if true then some ([seaFile, seasonFile].map TaskFile.entry) else none) =
      some ([seaFile, seasonFile].map TaskFile.entry) := rfl
  obtain ⟨set, hset, -, -, keys, last, -, -⟩ := loaded_tasks_of_files chosen distinct
  refine ⟨distinct, set, hset, fun key => ?_, ?_⟩
  · rw [keys]
    simp [isStem_iff, sea, season, eq_comm]
  · exact (last [seaFile] seasonFile [] _ rfl (isStem_iff.mpr season) (by simp)).1

/-- The task of a file may be loaded under another name than that of the file. -/
theorem season_loaded_under_another_name :
    seasonFile.entry.1 = "season.json".toList ∧
    ∃ set, load true (some [seasonFile.entry]) none = .ok set ∧
      set.train.map Prod.fst = ["sea".toList] ∧ set.test.map Prod.fst = ["sea".toList] := by
  obtain ⟨trainKeys, testKeys⟩ := TaskFile.keys_keptSet [seasonFile]
  have sea : (TaskFile.kept [seasonFile]).map Prod.fst = ["sea".toList] :=
    congrArg (fun task => [task]) (by decide : taskOf seasonFile.entry.1 = "sea".toList)
  exact ⟨rfl, _, TaskFile.loadDirectory_entries [seasonFile], trainKeys.trans sea, testKeys.trans sea⟩

end Task

end GridPuzzle
