import ChatArchive.Json.Basic
import ChatArchive.Word

/-!
# Writing JSON

Two forms: compact, without any blanks, and indented by two spaces a level.  Text is written as
it is except for quotes, backslashes and control characters.  A floating-point number is written
with its shortest digits and always with a point or an exponent.

Values of fixed shape are written through `Node`, whose objects keep the order that they are
given in and may repeat a name.
-/

namespace ChatArchive.Json

/-! ## Nodes -/

/-- What is written. -/
inductive Node where
  | null
  | bool (b : Bool)
  | num (n : Number)
  | str (s : String)
  | arr (items : List Node)
  | obj (members : List (String × Node))

namespace Node

instance : Inhabited Node := ⟨null⟩

/-- A natural number as a node. -/
def ofNat (n : Nat) : Node := num (.int n)

/-- An integer as a node. -/
def ofInt (n : Int) : Node := num (.int n)

/-- A node, or null. -/
def ofOption {α : Type} (f : α → Node) : Option α → Node
  | some a => f a
  | none => null

end Node

mutual

/-- A value as a node. -/
def toNode : Json → Node
  | null => .null
  | bool b => .bool b
  | num n => .num n
  | str s => .str s
  | arr items => .arr (toNodes items)
  | obj members => .obj (toMemberNodes members)

/-- The items as nodes. -/
def toNodes : List Json → List Node
  | [] => []
  | j :: js => toNode j :: toNodes js

/-- The members as nodes, in their order. -/
def toMemberNodes : List (String × Json) → List (String × Node)
  | [] => []
  | (k, j) :: ms => (k, toNode j) :: toMemberNodes ms

end

/-! ## Strings -/

/-- A hexadecimal digit in lowercase. -/
def hexDigit (n : Nat) : Char :=
  if n < 10 then Char.ofNat ('0'.toNat + n) else Char.ofNat ('a'.toNat + (n - 10))

/-- A character of a string as it is written. -/
def escapeChar (c : Char) : List Char :=
  if c = '"' then ['\\', '"']
  else if c = '\\' then ['\\', '\\']
  else if c = '\n' then ['\\', 'n']
  else if c = '\r' then ['\\', 'r']
  else if c = '\t' then ['\\', 't']
  else if c = '\x08' then ['\\', 'b']
  else if c = '\x0c' then ['\\', 'f']
  else if c.toNat < 0x20 then
    ['\\', 'u', '0', '0', hexDigit (c.toNat / 16), hexDigit (c.toNat % 16)]
  else [c]

/-- A string in quotes. -/
def quote (s : String) : List Char := '"' :: (s.toList.flatMap escapeChar ++ ['"'])

/-! ## Numbers -/

/-- The decimal digits of an integer. -/
def intText (n : Int) : List Char :=
  if n < 0 then '-' :: Nat.toDigits 10 n.natAbs else Nat.toDigits 10 n.natAbs

/-- A decimal as it is written: with a point if its first digit stands between the fifth place
after the point and the sixteenth before it, otherwise with an exponent that shows its sign. -/
def decimalText (d : Decimal) : List Char :=
  let ds := Nat.toDigits 10 d.digits
  let top : Int := d.exponent + ds.length - 1
  if -5 ≤ top ∧ top ≤ 15 then
    if 0 ≤ d.exponent then ds ++ List.replicate d.exponent.toNat '0' ++ ['.', '0']
    else if 0 ≤ top then
      let whole := (top + 1).toNat
      ds.take whole ++ '.' :: ds.drop whole
    else '0' :: '.' :: (List.replicate (-top - 1).toNat '0' ++ ds)
  else
    let fraction := if ds.length < 2 then [] else '.' :: ds.drop 1
    ds.take 1 ++ fraction ++ 'e' :: (if top < 0 then '-' else '+') :: Nat.toDigits 10 top.natAbs

/-- A floating-point number as it is written. -/
def floatText (x : Float) : List Char :=
  let bits := x.toBits.toNat
  let magnitude := bits % Word.size 63
  let sign := if Word.size 63 ≤ bits then ['-'] else []
  if magnitude = 0 then sign ++ ['0', '.', '0']
  else sign ++ decimalText (Decimal.shortest (Decimal.Binary.ofFloat x))

/-- A number as it is written. -/
def Number.text : Number → List Char
  | .int n => intText n
  | .float x => floatText x

/-! ## Compact form -/

mutual

/-- A node without blanks. -/
def Node.compact : Node → List Char
  | .null => "null".toList
  | .bool b => (if b then "true" else "false").toList
  | .num n => n.text
  | .str s => quote s
  | .arr items => '[' :: (Node.compactItems true items ++ [']'])
  | .obj members => '\x7b' :: (Node.compactMembers true members ++ ['\x7d'])

/-- The items of an array; all but the first follow a comma. -/
def Node.compactItems : Bool → List Node → List Char
  | _, [] => []
  | first, n :: ns =>
    (if first then [] else [',']) ++ n.compact ++ Node.compactItems false ns

/-- The members of an object; all but the first follow a comma. -/
def Node.compactMembers : Bool → List (String × Node) → List Char
  | _, [] => []
  | first, (k, n) :: ms =>
    (if first then [] else [',']) ++ quote k ++ ':' :: n.compact ++ Node.compactMembers false ms

end

/-! ## Indented form -/

/-- A new line at a level of indentation. -/
def newLine (level : Nat) : List Char := '\n' :: List.replicate (2 * level) ' '

mutual

/-- A node with each item and member on a line of its own, at a level of indentation.  Empty
arrays and objects stay on one line. -/
def Node.pretty (level : Nat) : Node → List Char
  | .arr [] => ['[', ']']
  | .arr (n :: ns) =>
    '[' :: (Node.prettyItems (level + 1) true (n :: ns) ++ newLine level ++ [']'])
  | .obj [] => ['\x7b', '\x7d']
  | .obj (m :: ms) =>
    '\x7b' :: (Node.prettyMembers (level + 1) true (m :: ms) ++ newLine level ++ ['\x7d'])
  | .null => "null".toList
  | .bool b => (if b then "true" else "false").toList
  | .num n => n.text
  | .str s => quote s

/-- Items, each on a line of its own, with a comma in front of all but the first. -/
def Node.prettyItems (level : Nat) : Bool → List Node → List Char
  | _, [] => []
  | first, n :: ns =>
    (if first then [] else [',']) ++ newLine level ++ n.pretty level ++
      Node.prettyItems level false ns

/-- Members, laid out as items are. -/
def Node.prettyMembers (level : Nat) : Bool → List (String × Node) → List Char
  | _, [] => []
  | first, (k, n) :: ms =>
    (if first then [] else [',']) ++ newLine level ++ quote k ++ ':' :: ' ' :: n.pretty level ++
      Node.prettyMembers level false ms

end

/-- The compact text of a node. -/
def Node.toText (n : Node) : String := String.ofList n.compact

/-- The indented text of a node. -/
def Node.toPrettyText (n : Node) : String := String.ofList (n.pretty 0)

/-- The compact text of a value. -/
def toText (j : Json) : String := j.toNode.toText

end ChatArchive.Json
