/-!
Entries by key, in the order in which their keys first came.
-/

namespace GridPuzzle

namespace Dictionary

variable {κ α : Type} [BEq κ]

/-- The entries after a value has been set for a key. A key that has an entry already keeps its place. -/
def set (key : κ) (value : α) : List (κ × α) → List (κ × α)
  | [] => [(key, value)]
  | (k, v) :: rest => if k == key then (k, value) :: rest else (k, v) :: set key value rest

/-- The entries of a list, set one after the other. -/
def ofList (entries : List (κ × α)) : List (κ × α) :=
  entries.foldl (fun d entry => set entry.1 entry.2 d) []

end Dictionary

end GridPuzzle
