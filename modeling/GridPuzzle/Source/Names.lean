import GridPuzzle.Text

/-!
The functions that a source text defines, by their names. A definition is recognized by its first line
alone, which starts with the word `def`.
-/

namespace GridPuzzle

namespace Source

/-- The word that starts a definition, with the blank behind it. -/
def definer : Text := ['d', 'e', 'f', ' ']

/-- The name that a line defines: what stands between the word that starts a definition and the next
opening parenthesis, or the next such word. -/
def definedName? (line : Text) : Option Text :=
  if definer.isPrefixOf line then
    some (Text.before ['('] (Text.before definer (line.drop definer.length)))
  else
    none

/-- The names that a text defines, in order and as often as it defines them. -/
def functionNames (source : Text) : List Text :=
  (Text.lines (Text.unifyLineEnds source)).filterMap definedName?

end Source

end GridPuzzle
