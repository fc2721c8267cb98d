import GridPuzzle.Document

/-!
Reading documents from texts in the usual notation: objects in braces, lists in brackets, strings in double
quotes with backslash escapes. A text must hold exactly one document, with blanks around it and around its
marks. Each reading function takes what it reads off the front of a text and gives back the rest.
-/

namespace GridPuzzle

namespace Document

/-- The four characters that may stand between the marks of a document. -/
def isSpace (c : Char) : Bool :=
  c == ' ' || c == '\t' || c == '\n' || c == '\r'

def skipSpace (text : Text) : Text :=
  text.dropWhile isSpace

/-- The rest of a text that starts with a word. -/
def afterWord? (word text : Text) : Option Text :=
  if word.isPrefixOf text then some (text.drop word.length) else none

/-! ## Strings -/

def hexDigit? (c : Char) : Option Nat :=
  if '0' ≤ c ∧ c ≤ '9' then some (c.toNat - '0'.toNat)
  else if 'a' ≤ c ∧ c ≤ 'f' then some (c.toNat - 'a'.toNat + 10)
  else if 'A' ≤ c ∧ c ≤ 'F' then some (c.toNat - 'A'.toNat + 10)
  else none

/-- The number that four hexadecimal digits write. -/
def codeUnit? (a b c d : Char) : Option Nat := do
  return ((← hexDigit? a) * 16 + (← hexDigit? b)) * 256 + (← hexDigit? c) * 16 + (← hexDigit? d)

/-- The character that a backslash and one letter stand for. -/
def escaped? : Char → Option Char
  | '"' => some '"'
  | '\\' => some '\\'
  | '/' => some '/'
  | 'b' => some '\x08'
  | 'f' => some '\x0c'
  | 'n' => some '\n'
  | 'r' => some '\r'
  | 't' => some '\t'
  | _ => none

/-- The code points of a string, from behind its opening quote up to the closing one. Halves of pairs are
still apart. -/
def readCodes : Text → Option (List Nat × Text)
  | [] => none
  | '"' :: rest => some ([], rest)
  | '\\' :: 'u' :: a :: b :: c :: d :: rest => do
    let unit ← codeUnit? a b c d
    let (codes, rest) ← readCodes rest
    return (unit :: codes, rest)
  | '\\' :: c :: rest => do
    let escaped ← escaped? c
    let (codes, rest) ← readCodes rest
    return (escaped.toNat :: codes, rest)
  | c :: rest => do
    if c.toNat < 0x20 then none
    let (codes, rest) ← readCodes rest
    return (c.toNat :: codes, rest)

/-- Whether two code points are the halves of a pair. -/
def isPair (high low : Nat) : Bool :=
  0xd800 ≤ high && high ≤ 0xdbff && 0xdc00 ≤ low && low ≤ 0xdfff

/-- The character of a code point; half of a pair alone is no character, and is replaced. -/
def charOfCode (n : Nat) : Char :=
  if 0xd800 ≤ n ∧ n ≤ 0xdfff then '\ufffd' else Char.ofNat n

/-- The characters of some code points, with two halves of a pair joined. -/
def joinPairs : List Nat → Text
  | [] => []
  | [n] => [charOfCode n]
  | m :: n :: rest =>
    if isPair m n then Char.ofNat (0x10000 + (m - 0xd800) * 0x400 + (n - 0xdc00)) :: joinPairs rest
    else charOfCode m :: joinPairs (n :: rest)

/-- A string from behind its opening quote up to the closing one. -/
def readString (text : Text) : Option (Text × Text) := do
  let (codes, rest) ← readCodes text
  return (joinPairs codes, rest)

/-! ## Numbers -/

def isDigit (c : Char) : Bool :=
  '0' ≤ c && c ≤ '9'

/-- The digits at the front of a text: a zero, or several that do not start with one. -/
def readDigits : Text → Option (Text × Text)
  | '0' :: rest => some (['0'], rest)
  | c :: rest =>
    if isDigit c then some (c :: rest.takeWhile isDigit, rest.dropWhile isDigit) else none
  | [] => none

/-- A fraction: a point and digits. Nothing is taken if there is none. -/
def readFraction : Text → Text × Text
  | '.' :: c :: rest =>
    if isDigit c then ('.' :: c :: rest.takeWhile isDigit, rest.dropWhile isDigit)
    else ([], '.' :: c :: rest)
  | text => ([], text)

/-- An exponent: a letter, a sign perhaps, and digits. Nothing is taken if there is none. -/
def readExponent (text : Text) : Text × Text :=
  match text with
  | e :: rest =>
    if e == 'e' || e == 'E' then
      let (sign, digits) :=
        match rest with
        | '+' :: more => (['+'], more)
        | '-' :: more => (['-'], more)
        | more => ([], more)
      match digits.takeWhile isDigit with
      | [] => ([], text)
      | taken => (e :: sign ++ taken, digits.dropWhile isDigit)
    else ([], text)
  | [] => ([], [])

/-- The number that digits write. -/
def natOfDigits (digits : Text) : Nat :=
  digits.foldl (fun n c => n * 10 + (c.toNat - '0'.toNat)) 0

/-- A number without its sign. -/
def readUnsigned (negative : Bool) (text : Text) : Option (Document × Text) := do
  let (digits, rest) ← readDigits text
  let (fraction, rest) := readFraction rest
  let (exponent, rest) := readExponent rest
  let n : Int := natOfDigits digits
  if fraction.isEmpty && exponent.isEmpty then return (.int (if negative then -n else n), rest)
  return (.real ((if negative then ['-'] else []) ++ digits ++ fraction ++ exponent), rest)

/-- The documents that are written as one word. -/
def words : List (Text × Document) :=
  [("null".toList, .null), ("true".toList, .bool true), ("false".toList, .bool false),
    ("NaN".toList, .real "NaN".toList), ("Infinity".toList, .real "Infinity".toList),
    ("-Infinity".toList, .real "-Infinity".toList)]

/-- A word or a number. -/
def readScalar (text : Text) : Option (Document × Text) :=
  match words.findSome? fun (word, d) => (afterWord? word text).map (d, ·) with
  | some found => some found
  | none =>
    match text with
    | '-' :: rest => readUnsigned true rest
    | _ => readUnsigned false text

/-! ## Lists and objects -/

mutual

/-- A document at the front of a text, nested `fuel` deep at most. -/
def readDocument : Nat → Text → Option (Document × Text)
  | 0, _ => none
  | _ + 1, '"' :: rest => do
    let (text, rest) ← readString rest
    return (.string text, rest)
  | fuel + 1, '[' :: rest =>
    match skipSpace rest with
    | ']' :: rest => some (.list [], rest)
    | rest => do
      let (items, rest) ← readItems fuel rest
      return (.list items, rest)
  | fuel + 1, '\x7b' :: rest =>
    match skipSpace rest with
    | '\x7d' :: rest => some (.object [], rest)
    | rest => do
      let (members, rest) ← readMembers fuel rest
      return (.object members, rest)
  | _ + 1, text => readScalar text

/-- The items of a list up to its closing bracket. -/
def readItems : Nat → Text → Option (List Document × Text)
  | 0, _ => none
  | fuel + 1, text => do
    let (item, rest) ← readDocument fuel text
    match skipSpace rest with
    | ',' :: rest =>
      let (items, rest) ← readItems fuel (skipSpace rest)
      return (item :: items, rest)
    | ']' :: rest => return ([item], rest)
    | _ => none

/-- The members of an object up to its closing brace. -/
def readMembers : Nat → Text → Option (List (Text × Document) × Text)
  | 0, _ => none
  | fuel + 1, '"' :: text => do
    let (key, rest) ← readString text
    match skipSpace rest with
    | ':' :: rest =>
      let (value, rest) ← readDocument fuel (skipSpace rest)
      match skipSpace rest with
      | ',' :: rest =>
        let (members, rest) ← readMembers fuel (skipSpace rest)
        return ((key, value) :: members, rest)
      | '\x7d' :: rest => return ([(key, value)], rest)
      | _ => none
    | _ => none
  | _ + 1, _ => none

end

/-- The document that a text holds. -/
def read (text : Text) : Outcome Document :=
  match readDocument (text.length + 1) (skipSpace text) with
  | some (d, rest) => if (skipSpace rest).isEmpty then .ok d else .error .malformedText
  | none => .error .malformedText

end Document

end GridPuzzle
