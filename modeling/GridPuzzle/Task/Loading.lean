import GridPuzzle.Dictionary
import GridPuzzle.Document.Reader

/-!
Loading the examples of tasks from a directory of data files, one file a task.
-/

namespace GridPuzzle

namespace Task

/-- The files of a directory: their names and their texts. -/
abbrev Directory := List (Text × Text)

/-- An example as it was loaded: two grids of whatever the file holds. -/
structure LoadedExample where
  input : List (List Document)
  output : List (List Document)

/-- The examples of a data set by task, of both its parts. -/
structure LoadedSet where
  train : List (Text × List LoadedExample)
  test : List (Text × List LoadedExample)

/-- The task that a file is for: the file's name without the letters of its extension, as many of them as
stand at its end. -/
def taskOf (file : Text) : Text :=
  (file.reverse.dropWhile (".json".toList.contains ·)).reverse

def loadExample (d : Document) : Outcome LoadedExample := do
  let input ← (← d.member "input".toList).rows
  return ⟨input, ← (← d.member "output".toList).rows⟩

/-- The examples of one part of a file's document. -/
def loadPart (part : Text) (d : Document) : Outcome (List LoadedExample) := do
  (← (← d.member part).items).mapM loadExample

/-- The examples in the files of a directory. All files are read before any is looked into, and one part of
all files is looked into before the other. Of several files for one task the last counts. -/
def loadDirectory (files : Directory) : Outcome LoadedSet := do
  let documents := Dictionary.ofList
    (← files.mapM fun (file, text) => return (taskOf file, ← Document.read text))
  let train ← documents.mapM fun (task, d) => return (task, ← loadPart "train".toList d)
  let test ← documents.mapM fun (task, d) => return (task, ← loadPart "test".toList d)
  return ⟨train, test⟩

/-- The examples of the training directory or of the evaluation directory, either of which may not
exist. -/
def load (fromTraining : Bool) (training evaluation : Option Directory) : Outcome LoadedSet :=
  match if fromTraining then training else evaluation with
  | some files => loadDirectory files
  | none => .error .missingFile

end Task

end GridPuzzle
