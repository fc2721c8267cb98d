import GridPuzzle.Fault
import GridPuzzle.Text

/-!
Documents: nested lists and objects of scalars, as data files hold them.
-/

namespace GridPuzzle

inductive Document where
  | null
  | bool (b : Bool)
  | int (n : Int)
  /-- A number with a fraction or an exponent, or one that is no number, as it is written. -/
  | real (written : Text)
  | string (text : Text)
  | list (items : List Document)
  /-- The members of an object by key; of several members with one key the last counts. -/
  | object (members : List (Text × Document))
  deriving Inhabited

namespace Document

/-- The member of an object with a key. Only objects have members. -/
def member (key : Text) : Document → Outcome Document
  | .object members =>
    match members.reverse.lookup key with
    | some d => .ok d
    | none => .error .missingKey
  | _ => .error .wrongKind

/-- The items of a document: those of a list, the keys of an object, or the characters of a string. -/
def items : Document → Outcome (List Document)
  | .list items => .ok items
  | .object members => .ok ((members.map (·.1)).eraseDups.map .string)
  | .string text => .ok (text.map fun c => .string [c])
  | _ => .error .wrongKind

/-- The rows of a document, each with its items. -/
def rows (d : Document) : Outcome (List (List Document)) := do
  (← d.items).mapM items

end Document

end GridPuzzle
