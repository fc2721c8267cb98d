import GridPuzzle.Task.Shelf0
import GridPuzzle.Task.Shelf1
import GridPuzzle.Task.Shelf2
import GridPuzzle.Task.Shelf3
import GridPuzzle.Task.Shelf4
import GridPuzzle.Task.Shelf5
import GridPuzzle.Task.Shelf6
import GridPuzzle.Task.Shelf7
import GridPuzzle.Task.Shelf8
import GridPuzzle.Task.Shelf9
import GridPuzzle.Task.ShelfA
import GridPuzzle.Task.ShelfB
import GridPuzzle.Task.ShelfC
import GridPuzzle.Task.ShelfD
import GridPuzzle.Task.ShelfE
import GridPuzzle.Task.ShelfF

/-!
The catalogue of all tasks with a program.
-/

namespace GridPuzzle

namespace Task

/-- The programs of all tasks, by identifier. -/
def catalogue : List (String × Program) :=
  shelf0 ++ shelf1 ++ shelf2 ++ shelf3 ++ shelf4 ++ shelf5 ++ shelf6 ++ shelf7 ++
    shelf8 ++ shelf9 ++ shelfA ++ shelfB ++ shelfC ++ shelfD ++ shelfE ++ shelfF

/-- The program of a task. -/
def program? (task : String) : Option Program :=
  catalogue.lookup task

/-- The result of a task's program on a grid. -/
def solve (task : String) (grid : Value) : Outcome Value := do
  (← Outcome.ofOption .unsupported (program? task)).run grid

end Task

end GridPuzzle
