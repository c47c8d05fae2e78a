import ChatArchive.Text.Basic
import ChatArchive.Unicode.CharSet
import ChatArchive.Word

/-!
# Numeric hosts

Hosts that are given by number.  The four-byte form takes up to four numbers, each decimal, octal
or hexadecimal, of which the last fills the bytes that are left.  The form in brackets takes eight
pieces of sixteen bits, where one run of zeros may be left out.
-/

namespace ChatArchive.Url

open ChatArchive.Unicode

/-! ## Four bytes -/

/-- The digits of a number and their base: `0x` marks hexadecimal, a zero in front octal. -/
def baseOf : List Char → Nat × List Char
  | '0' :: 'x' :: ds => (16, ds)
  | '0' :: 'X' :: ds => (16, ds)
  | '0' :: d :: ds => (8, d :: ds)
  | ds => (10, ds)

/-- A number of an address.  No digits after the mark of a base are zero. -/
def addressNumber? (cs : List Char) : Option Nat :=
  if cs.isEmpty then none
  else
    let (base, ds) := baseOf cs
    ds.foldlM (fun n d => do
      let v ← CharSet.hexDigit? d
      if v < base then some (n * base + v) else none) 0

/-- Is the host to be read as numbers?  So it is if its last part is one; a dot at the end is
passed over. -/
def endsInNumber (host : List Char) : Bool :=
  let last? := match (Text.splitBy (· == '.') host).reverse with
    | [] :: last :: _ => some last
    | [[]] => none
    | last :: _ => some last
    | [] => none
  match last? with
  | some last => (!last.isEmpty && last.all Char.isDigit) || (addressNumber? last).isSome
  | none => false

/-- The address of four bytes. -/
def fourBytes? (host : List Char) : Option Nat := do
  let parts := Text.splitBy (· == '.') host
  let parts := if parts.getLast? = some [] then parts.dropLast else parts
  if 4 < parts.length then none
  let numbers ← parts.mapM addressNumber?
  let last ← numbers.getLast?
  let front := numbers.dropLast
  if Word.size (8 * (4 - front.length)) ≤ last || front.any (255 < ·) then none
  some (front.zipIdx.foldl (fun sum (n, i) => sum + n * Word.size (8 * (3 - i))) last)

/-- An address of four bytes in writing. -/
def fourBytesText (n : Nat) : List Char :=
  (Text.join "." ([n / 16777216, n / 65536 % 256, n / 256 % 256, n % 256].map toString)).toList

/-! ## Eight pieces -/

/-- A byte of the four at the end of an address of eight pieces: decimal, without zeros in
front. -/
def plainByte? (cs : List Char) : Option Nat :=
  match cs with
  | [] => none
  | '0' :: _ :: _ => none
  | ds =>
    if ds.all Char.isDigit then
      let n := ds.foldl (fun n d => n * 10 + (d.toNat - 0x30)) 0
      if n ≤ 255 then some n else none
    else none

/-- A piece: one to four hexadecimal digits. -/
def piece? (cs : List Char) : Option Nat :=
  if cs.isEmpty || 4 < cs.length then none
  else cs.foldlM (fun n d => (CharSet.hexDigit? d).map (n * 16 + ·)) 0

/-- The pieces of one side.  The last may be four bytes, which are two pieces, if `mayEnd`. -/
def side? (mayEnd : Bool) (cs : List Char) : Option (List Nat) :=
  if cs.isEmpty then some []
  else
    let parts := Text.splitBy (· == ':') cs
    let last := parts.getLastD []
    if mayEnd && last.contains '.' then do
      let bytes ← (Text.splitBy (· == '.') last).mapM plainByte?
      let front ← parts.dropLast.mapM piece?
      match bytes with
      | [a, b, c, d] => some (front ++ [a * 256 + b, c * 256 + d])
      | _ => none
    else parts.mapM piece?

/-- The eight pieces of an address.  A double colon stands for the zeros that are missing. -/
def eightPieces? (cs : List Char) : Option (List Nat) :=
  match Text.find? [':', ':'] cs with
  | none => do
    let pieces ← side? true cs
    if pieces.length = 8 then some pieces else none
  | some i => do
    let left ← side? false (cs.take i)
    let right ← side? true (cs.drop (i + 2))
    if left.length + right.length < 8 then
      some (left ++ List.replicate (8 - left.length - right.length) 0 ++ right)
    else none

/-- The first of the longest runs of zeros in the pieces from `i` on, as its place and length. -/
def longestZeros (i : Nat) : List Nat → Nat × Nat
  | [] => (i, 0)
  | p :: ps =>
    let run := ((p :: ps).takeWhile (· == 0)).length
    let rest := longestZeros (i + 1) ps
    if rest.2 ≤ run then (i, run) else rest

/-- Pieces with colons between them. -/
def piecesText (ps : List Nat) : List Char :=
  (Text.join ":" (ps.map fun p => String.ofList (Nat.toDigits 16 p))).toList

/-- An address of eight pieces in writing.  The first of the longest runs of two or more zeros is
left out. -/
def eightPiecesText (ps : List Nat) : List Char :=
  let (i, n) := longestZeros 0 ps
  '[' :: (if n < 2 then piecesText ps
    else piecesText (ps.take i) ++ [':', ':'] ++ piecesText (ps.drop (i + n))) ++ [']']

end ChatArchive.Url
