import ChatArchive.Text.Basic

/-!
# Percent-encoding

A byte that may not stand in a part of an address is written as `%` and two hexadecimal digits.
Each part has its own set of characters that are escaped; all characters beyond ASCII and all
controls are escaped in every part.
-/

namespace ChatArchive.Url

open ChatArchive.Unicode

/-! ## What is escaped -/

/-- Controls and characters beyond ASCII. -/
def escapedAnywhere (c : Char) : Bool := c.toNat < 0x20 || 0x7E < c.toNat

/-- What is escaped behind the hash mark. -/
def escapedInFragment (c : Char) : Bool :=
  escapedAnywhere c || [' ', '"', '<', '>', '\x60'].contains c

/-- A path escapes the marks at which it would end as well. -/
def escapedInPath (c : Char) : Bool :=
  escapedInFragment c || ['#', '?', '\x7b', '\x7d'].contains c

/-- The name of a user escapes all that has a meaning in an authority. -/
def escapedInUserinfo (c : Char) : Bool :=
  escapedInPath c || ['/', ':', ';', '=', '@', '[', '\\', ']', '^', '|'].contains c

/-- Addresses of the schemes of the web escape an apostrophe in a query, others do not. -/
def escapedInQuery (ofWeb : Bool) (c : Char) : Bool :=
  escapedAnywhere c || [' ', '"', '#', '<', '>'].contains c || (ofWeb && c == '\'')

/-! ## Writing -/

/-- The bytes of a character. -/
def bytesOf (c : Char) : List UInt8 := (String.singleton c).toUTF8.toList

/-- A byte as its two digits behind a percent sign. -/
def escapeByte (b : UInt8) : List Char :=
  ['%', Text.hexCapital (b.toNat / 16), Text.hexCapital (b.toNat % 16)]

/-- A text with some characters escaped. -/
def escape (escaped : Char → Bool) (cs : List Char) : List Char :=
  cs.flatMap fun c => if escaped c then (bytesOf c).flatMap escapeByte else [c]

/-- A text with some characters escaped, as a string. -/
def escapeText (escaped : Char → Bool) (cs : List Char) : String :=
  String.ofList (escape escaped cs)

/-! ## Reading -/

/-- The bytes of a text with its escapes resolved.  A `%` without two digits stands for itself. -/
def unescapeBytes : List Char → List UInt8
  | '%' :: a :: b :: rest =>
    match CharSet.hexDigit? a, CharSet.hexDigit? b with
    | some x, some y => UInt8.ofNat (x * 16 + y) :: unescapeBytes rest
    | _, _ => bytesOf '%' ++ unescapeBytes (a :: b :: rest)
  | c :: cs => bytesOf c ++ unescapeBytes cs
  | [] => []

/-- A text with its escapes resolved, if that is one. -/
def unescape? (cs : List Char) : Option (List Char) :=
  (String.fromUTF8? (unescapeBytes cs).toByteArray).map String.toList

end ChatArchive.Url
