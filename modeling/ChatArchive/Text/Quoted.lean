import ChatArchive.Unicode.Category
import ChatArchive.Unicode.Property
import ChatArchive.Text.Basic

/-!
# Quoted text in messages

Messages show a text in double quotes.  Quotes, backslashes and line breaks are escaped by a
letter, and characters that would not be seen on their own by their code point.
-/

namespace ChatArchive.Text

open ChatArchive.Unicode

/-- Characters that cannot be seen: those without a category, and all separators but the
space. -/
def invisibleSet : CharSet :=
  (CharSet.unions
    [Category.unassigned, Category.membersOf [.control, .format, .privateUse],
     Category.membersOf Category.separators]).difference (CharSet.singleton ' ')

/-- Characters that attach to the one before them. -/
def attachedSet : CharSet := Property.graphemeExtend.members

/-- A character by its code point. -/
def codePointEscape (c : Char) : List Char :=
  ['\\', 'u', '\x7b'] ++ Nat.toDigits 16 c.toNat ++ ['\x7d']

/-- A character as a quoted text shows it. -/
def quoteChar (c : Char) : List Char :=
  if c = '"' then ['\\', '"']
  else if c = '\\' then ['\\', '\\']
  else if c = '\n' then ['\\', 'n']
  else if c = '\r' then ['\\', 'r']
  else if c = '\t' then ['\\', 't']
  else if c = '\x00' then ['\\', '0']
  else if 0x20 ≤ c.toNat ∧ c.toNat ≤ 0x7E then [c]
  else if attachedSet.contains c || invisibleSet.contains c then codePointEscape c
  else [c]

/-- A text in quotes. -/
def quoted (s : String) : String :=
  String.ofList ('"' :: (s.toList.flatMap quoteChar ++ ['"']))

end ChatArchive.Text
