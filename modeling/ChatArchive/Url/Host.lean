import ChatArchive.Text.Lowercase
import ChatArchive.Unicode.Category
import ChatArchive.Url.Address
import ChatArchive.Url.Percent
import ChatArchive.Url.Punycode

/-!
# Hosts

The host of an address in its one written form: a name in lower case and in ASCII, or a number.
Hosts of schemes that are not of the web are left as they are.
-/

namespace ChatArchive.Url

open ChatArchive.Unicode

/-! ## Names -/

/-- ASCII characters that no host may have. -/
def forbiddenInHost (c : Char) : Bool :=
  ['\x00', '\t', '\n', '\r', ' ', '#', '/', ':', '<', '>', '?', '@', '[', '\\', ']', '^',
    '|'].contains c

/-- ASCII characters that no host name of the web may have. -/
def forbiddenInName (c : Char) : Bool :=
  forbiddenInHost c || c.toNat < 0x20 || c == '%' || c == '\x7F'

/-- Characters that are dropped from names. -/
def ignoredInName : CharSet :=
  CharSet.ofRanges [(0xAD, 0xAD), (0x34F, 0x34F), (0x180B, 0x180D), (0x180F, 0x180F),
    (0x200B, 0x200B), (0x2060, 0x2060), (0x2064, 0x2064), (0xFE00, 0xFE0F), (0xFEFF, 0xFEFF),
    (0xE0100, 0xE01EF)]

/-- A character in the form in which names have it, with wide forms of ASCII as ASCII and other
full stops as dots. -/
def nameChar (c : Char) : List Char :=
  if ignoredInName.contains c then []
  else if c == '\u3002' || c == '\uFF61' then ['.']
  else if 0xFF01 ≤ c.toNat && c.toNat ≤ 0xFF5E then
    Text.lowerChar (Char.ofNat (c.toNat - 0xFEE0))
  else if c == '\u1E9E' then ['ß']
  else Text.lowerChar c

/-- Characters beyond ASCII that no name may have. -/
def excludedFromNames : CharSet :=
  CharSet.unions
    [Category.unassigned, Category.membersOf [.control, .format, .privateUse],
      Category.membersOf Category.separators]

/-- May the characters of a name stand in it? -/
def isNameChar (c : Char) : Bool :=
  if c.toNat < 0x80 then !forbiddenInName c else !excludedFromNames.contains c

/-- Marks, with which no label begins. -/
def markSet : CharSet := Category.membersOf Category.marks

/-- Is a label beyond ASCII in its final form? -/
def isFinalLabel (label : List Char) : Bool :=
  label.any (fun c => 0x80 ≤ c.toNat) && label.all isNameChar &&
    label.flatMap nameChar == label &&
    !(label.head?.any markSet.contains)

/-- A label in ASCII. -/
def asciiLabel? (label : List Char) : Option (List Char) :=
  if label.all fun c => c.toNat < 0x80 then
    if ['x', 'n', '-', '-'].isPrefixOf label then
      (Punycode.decode (label.drop 4)).bind fun l =>
        if isFinalLabel l && Punycode.encode l == label.drop 4 then some label else none
    else some label
  else if isFinalLabel label then some (['x', 'n', '-', '-'] ++ Punycode.encode label)
  else none

/-- A name in ASCII. -/
def asciiName? (cs : List Char) : Option (List Char) := do
  let name := cs.flatMap nameChar
  if name.any fun c => !isNameChar c then none
  let labels ← (Text.splitBy (· == '.') name).mapM asciiLabel?
  some (List.intercalate ['.'] labels)

/-! ## Hosts -/

/-- The address of eight pieces in brackets. -/
def bracketed? (cs : List Char) : Option (List Char) :=
  match cs.getLast? with
  | some ']' => (eightPieces? (cs.drop 1).dropLast).map eightPiecesText
  | _ => none

/-- A host of the web. -/
def webHost? (cs : List Char) : Option (List Char) :=
  match cs with
  | '[' :: _ => bracketed? cs
  | _ => do
    let name ← (unescape? cs).bind asciiName?
    if name.isEmpty then none
    else if endsInNumber name then (fourBytes? name).map fourBytesText
    else some name

/-- A host of another scheme. -/
def otherHost? (cs : List Char) : Option (List Char) :=
  match cs with
  | '[' :: _ => bracketed? cs
  | _ => if cs.any forbiddenInHost then none else some (escape escapedAnywhere cs)

end ChatArchive.Url
