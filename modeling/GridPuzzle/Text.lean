/-!
Texts as lists of characters: lines, splitting and counting.
-/

namespace GridPuzzle

/-- A text. -/
abbrev Text := List Char

namespace Text

/-- A text with each of the three ways to end a line made one line feed. -/
def unifyLineEnds : Text → Text
  | [] => []
  | '\r' :: '\n' :: rest => '\n' :: unifyLineEnds rest
  | c :: rest => (if c = '\r' then '\n' else c) :: unifyLineEnds rest

/-- The parts of a text between the occurrences of a separator. `skip` characters belong to an occurrence
that has been found, and `part` is the part under way, turned round. -/
def splitFrom (separator : Text) : Nat → Text → Text → List Text
  | _, part, [] => [part.reverse]
  | skip + 1, part, _ :: rest => splitFrom separator skip part rest
  | 0, part, c :: rest =>
    if separator.isPrefixOf (c :: rest) then
      part.reverse :: splitFrom separator (separator.length - 1) [] rest
    else
      splitFrom separator 0 (c :: part) rest

/-- The parts of a text between the occurrences of a separator, from left to right; occurrences do not
overlap. -/
def splitOn (separator text : Text) : List Text :=
  splitFrom separator 0 [] text

/-- The number of occurrences of a pattern that do not overlap, from left to right. -/
def countOf (pattern text : Text) : Nat :=
  (splitOn pattern text).length - 1

/-- The part of a text before the first occurrence of a separator, or all of it. -/
def before (separator : Text) : Text → Text
  | [] => []
  | c :: rest => if separator.isPrefixOf (c :: rest) then [] else c :: before separator rest

/-- The part of a text after the first occurrence of a separator, if there is one. -/
def after? (separator : Text) : Text → Option Text
  | [] => none
  | c :: rest =>
    if separator.isPrefixOf (c :: rest) then some ((c :: rest).drop separator.length)
    else after? separator rest

/-- The lines of a text. A text that ends with a line feed has an empty last line. -/
def lines (text : Text) : List Text :=
  splitOn ['\n'] text

/-- The characters that count as blank: white space, separators of lines and paragraphs, and the four
information separators. -/
def isBlank (c : Char) : Bool :=
  let n := c.toNat
  (0x09 ≤ n && n ≤ 0x0d) || (0x1c ≤ n && n ≤ 0x20) || n == 0x85 || n == 0xa0 || n == 0x1680 ||
    (0x2000 ≤ n && n ≤ 0x200a) || n == 0x2028 || n == 0x2029 || n == 0x202f || n == 0x205f || n == 0x3000

/-- A text without the blanks at its front. -/
def trimStart (text : Text) : Text :=
  text.dropWhile isBlank

/-- A text without the blanks at both ends. -/
def trim (text : Text) : Text :=
  (trimStart (trimStart text).reverse).reverse

end Text

end GridPuzzle
