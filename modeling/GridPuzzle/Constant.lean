import GridPuzzle.Value

/-!
The named constants of the language: truth values, small numbers, and the vectors of directions and of
small dimensions.
-/

namespace GridPuzzle

inductive Constant where
  | true | false
  | zero | one | two | three | four | five | six | seven | eight | nine | ten
  | negOne | negTwo
  | down | right | up | left
  | origin | unity | negUnity | upRight | downLeft
  | zeroByTwo | twoByZero | twoByTwo | threeByThree
  deriving DecidableEq, Repr

namespace Constant

/-- The word for a constant in programs. -/
def name : Constant → String
  | .true => "T"
  | .false => "F"
  | .zero => "ZERO"
  | .one => "ONE"
  | .two => "TWO"
  | .three => "THREE"
  | .four => "FOUR"
  | .five => "FIVE"
  | .six => "SIX"
  | .seven => "SEVEN"
  | .eight => "EIGHT"
  | .nine => "NINE"
  | .ten => "TEN"
  | .negOne => "NEG_ONE"
  | .negTwo => "NEG_TWO"
  | .down => "DOWN"
  | .right => "RIGHT"
  | .up => "UP"
  | .left => "LEFT"
  | .origin => "ORIGIN"
  | .unity => "UNITY"
  | .negUnity => "NEG_UNITY"
  | .upRight => "UP_RIGHT"
  | .downLeft => "DOWN_LEFT"
  | .zeroByTwo => "ZERO_BY_TWO"
  | .twoByZero => "TWO_BY_ZERO"
  | .twoByTwo => "TWO_BY_TWO"
  | .threeByThree => "THREE_BY_THREE"

def value : Constant → Value
  | .true => .bool Bool.true
  | .false => .bool Bool.false
  | .zero => .int 0
  | .one => .int 1
  | .two => .int 2
  | .three => .int 3
  | .four => .int 4
  | .five => .int 5
  | .six => .int 6
  | .seven => .int 7
  | .eight => .int 8
  | .nine => .int 9
  | .ten => .int 10
  | .negOne => .int (-1)
  | .negTwo => .int (-2)
  | .down => .location 1 0
  | .right => .location 0 1
  | .up => .location (-1) 0
  | .left => .location 0 (-1)
  | .origin => .location 0 0
  | .unity => .location 1 1
  | .negUnity => .location (-1) (-1)
  | .upRight => .location (-1) 1
  | .downLeft => .location 1 (-1)
  | .zeroByTwo => .location 0 2
  | .twoByZero => .location 2 0
  | .twoByTwo => .location 2 2
  | .threeByThree => .location 3 3

/-- All constants. -/
def all : List Constant :=
  [.true, .false, .zero, .one, .two, .three, .four, .five, .six, .seven, .eight, .nine, .ten,
    .negOne, .negTwo, .down, .right, .up, .left, .origin, .unity, .negUnity, .upRight, .downLeft,
    .zeroByTwo, .twoByZero, .twoByTwo, .threeByThree]

/-- The constant that programs call by a word. -/
def ofName? (word : String) : Option Constant :=
  all.find? (·.name == word)

end Constant

end GridPuzzle
