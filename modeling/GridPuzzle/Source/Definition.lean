import GridPuzzle.Fault
import GridPuzzle.Source.Names

/-!
The definitions of a source text: each is its first line and the lines that belong to it.
-/

namespace GridPuzzle

namespace Source

/-- A function definition. -/
structure Definition where
  name : Text
  /-- The first line and those that follow, up to the last one that is not blank. -/
  lines : List Text

/-- The text of a definition, each line ended by a line feed. -/
def Definition.text (d : Definition) : Text :=
  d.lines.flatMap (· ++ ['\n'])

/-- Whether a line belongs to the definition above it: it is blank or indented, or it closes the parameter
list. -/
def continues : Text → Bool
  | [] => true
  | c :: _ => Text.isBlank c || c == ')'

/-- Lines without the blank ones at their end. -/
def dropBlankEnd (lines : List Text) : List Text :=
  (lines.reverse.dropWhile (·.all Text.isBlank)).reverse

/-- The name of the function that a first line defines. -/
def nameIn (line : Text) : Text :=
  (Text.trimStart (line.drop definer.length)).takeWhile fun c => c != '(' && !Text.isBlank c

/-- The definitions among some lines, in order. -/
def definitionsIn : List Text → List Definition
  | [] => []
  | line :: rest =>
    if definer.isPrefixOf line then
      ⟨nameIn line, line :: dropBlankEnd (rest.takeWhile continues)⟩ :: definitionsIn rest
    else
      definitionsIn rest

/-- The definitions of a text, in order. -/
def definitions (source : Text) : List Definition :=
  definitionsIn (Text.lines (Text.unifyLineEnds source))

/-- The definition of a name that is in force at the end of a text: the last one. -/
def definition (source : Text) (name : Text) : Outcome Definition :=
  match (definitions source).reverse.find? (·.name == name) with
  | some d => .ok d
  | none => .error .unsupported

end Source

end GridPuzzle
