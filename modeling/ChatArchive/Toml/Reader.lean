import ChatArchive.Toml.Number
import ChatArchive.Toml.Quoted

/-!
# Reading statements

A document is read as a list of statements: headers of tables, headers of tables in arrays, and
values with keys.  What they mean together is the matter of `Toml.Table`.
-/

namespace ChatArchive.Toml

/-- A statement of a document, or a member in braces. -/
inductive Statement (α : Type) where
  /-- The header of a table. -/
  | table (path : List String)
  /-- The header of one more table of an array. -/
  | element (path : List String)
  | assign (path : List String) (value : α)

/-! ## Gaps -/

/-- What follows the blanks within a line. -/
def skipGap (cs : List Char) : List Char := cs.dropWhile isGap

/-- What follows a comment, which ends before the line does. -/
def skipComment (cs : List Char) : Option (List Char) :=
  match cs with
  | '#' :: _ =>
    let rest := cs.dropWhile isPlain
    match lineBreak? rest, rest with
    | some _, _ | none, [] => some rest
    | none, _ :: _ => none
  | _ => some cs

/-- What follows blanks, line breaks and comments. -/
def skipGaps : Nat → List Char → Option (List Char)
  | 0, _ => none
  | bound + 1, cs => do
    let cs ← skipComment (skipGap cs)
    match lineBreak? cs with
    | some (_, rest) => skipGaps bound rest
    | none => some cs

/-- What follows blanks, line breaks and comments, of any length. -/
def skipAll (cs : List Char) : Option (List Char) := skipGaps (cs.length + 1) cs

/-- What follows the end of a line, or of the text. -/
def endLine (cs : List Char) : Option (List Char) := do
  let cs ← skipComment (skipGap cs)
  match lineBreak? cs with
  | some (_, rest) => some rest
  | none => if cs.isEmpty then some [] else none

/-! ## Keys -/

/-- May a character stand in a key without quotes? -/
def isBareKeyChar (c : Char) : Bool := c.isAlphanum || c == '_' || c == '-'

/-- A part of a key, and what follows it. -/
def readKeyPart (cs : List Char) : Option (String × List Char) :=
  match cs.span isBareKeyChar with
  | ([], _) => readShort cs
  | (name, rest) => some (String.ofList name, rest)

/-- The parts of a key with dots between them, and what follows it. -/
def readKey : Nat → List Char → Option (List String × List Char)
  | 0, _ => none
  | bound + 1, cs => do
    let (part, rest) ← readKeyPart (skipGap cs)
    match skipGap rest with
    | '.' :: rest => do
      let (parts, rest) ← readKey bound rest
      some (part :: parts, rest)
    | rest => some ([part], rest)

/-- A key of any length. -/
def readPath (cs : List Char) : Option (List String × List Char) := readKey (cs.length + 1) cs

/-- What follows a mark. -/
def expect (mark : Char) : List Char → Option (List Char)
  | c :: rest => if c = mark then some rest else none
  | [] => none

/-- A value with a key, and what follows it. -/
def readAssignment {α : Type} (read : List Char → Option (α × List Char)) (cs : List Char) :
    Option ((List String × α) × List Char) := do
  let (path, rest) ← readPath cs
  let rest ← expect '=' rest
  let (value, rest) ← read (skipGap rest)
  some ((path, value), rest)

/-! ## Values -/

/-- Things with commas between them up to a bracket, and what follows that.  A comma may stand
before the bracket. -/
def readListed {α : Type} (close : Char) (read : List Char → Option (α × List Char)) :
    Nat → List Char → Option (List α × List Char)
  | 0, _ => none
  | bound + 1, cs => do
    let cs ← skipAll cs
    match expect close cs with
    | some rest => some ([], rest)
    | none => do
      let (a, cs) ← read cs
      let cs ← skipAll cs
      match expect close cs with
      | some rest => some ([a], rest)
      | none => do
        let rest ← expect ',' cs
        let (as, rest) ← readListed close read bound rest
        some (a :: as, rest)

/-- A scalar, and what follows it. -/
def readScalar (cs : List Char) : Option (Scalar × List Char) :=
  match cs with
  | '"' :: _ | '\'' :: _ => (readQuoted cs).map fun (s, rest) => (.string s, rest)
  | _ => readWord cs

/-- A value as it is written. -/
inductive Written where
  | scalar (s : Scalar)
  | array (items : List Written)
  | braces (members : List (List String × Written))

/-- A value, and what follows it.  Arrays and tables are nested at most `depth` deep. -/
def readValue : Nat → List Char → Option (Written × List Char)
  | 0, cs => (readScalar cs).map fun (s, rest) => (.scalar s, rest)
  | depth + 1, cs =>
    match cs with
    | '[' :: rest =>
      (readListed ']' (readValue depth) (rest.length + 1) rest).map fun (items, rest) =>
        (.array items, rest)
    | '\x7b' :: rest =>
      (readListed '\x7d' (readAssignment (readValue depth)) (rest.length + 1) rest).map
        fun (members, rest) => (.braces members, rest)
    | _ => (readScalar cs).map fun (s, rest) => (.scalar s, rest)

/-- How deep values may be nested. -/
def maxDepth : Nat := 80

/-! ## Documents -/

/-- The header of a table, which starts after the bracket, and what follows its line. -/
def readHeader (cs : List Char) : Option (Statement Written × List Char) :=
  match cs with
  | '[' :: rest => do
    let (path, rest) ← readPath rest
    let rest ← expect ']' rest
    let rest ← expect ']' rest
    let rest ← endLine rest
    some (.element path, rest)
  | _ => do
    let (path, rest) ← readPath cs
    let rest ← expect ']' rest
    let rest ← endLine rest
    some (.table path, rest)

/-- A statement, and what follows its line. -/
def readStatement (cs : List Char) : Option (Statement Written × List Char) :=
  match cs with
  | '[' :: rest => readHeader rest
  | _ => do
    let ((path, value), rest) ← readAssignment (readValue maxDepth) cs
    let rest ← endLine rest
    some (.assign path value, rest)

/-- The statements of a document. -/
def readStatements : Nat → List Char → Option (List (Statement Written))
  | 0, _ => none
  | bound + 1, cs => do
    let cs ← skipAll cs
    if cs.isEmpty then some []
    else
      let (s, rest) ← readStatement cs
      (readStatements bound rest).map (s :: ·)

/-- The statements of a text, which may begin with a mark of its byte order. -/
def statementsOf (cs : List Char) : Option (List (Statement Written)) :=
  match cs with
  | '\uFEFF' :: rest => readStatements (rest.length + 1) rest
  | _ => readStatements (cs.length + 1) cs

end ChatArchive.Toml
