import ChatArchive.Text.Basic

/-!
# Paths

A path is a text of names with slashes between them.  It is kept as it was given; its parts are
the names and the steps upwards, without empty names and single dots.
-/

namespace ChatArchive.Files

/-- A path as it was given. -/
abbrev Path := String

namespace Path

/-- What stands between the slashes. -/
def segments (p : Path) : List String :=
  (Text.splitBy (· == '/') p.toList).map String.ofList

/-- The names and the steps upwards. -/
def parts (p : Path) : List String := (segments p).filter fun s => s != "" && s != "."

/-- Does the path start at the root? -/
def isAbsolute (p : Path) : Bool := p.toList.head? == some '/'

/-- Can the path lead to nothing but a folder, by the way it ends? -/
def namesFolder (p : Path) : Bool :=
  match (segments p).getLast? with
  | some s => s == "" || s == "." || s == ".."
  | none => true

/-- The name at the end of some parts; a step upwards has none. -/
def lastName? (parts : List String) : Option String :=
  parts.getLast?.filter fun s => s != ".."

/-- Does the null character stand in one of some parts?  No path with it is taken. -/
def hasNull (parts : List String) : Bool := parts.any fun part => part.toList.contains '\x00'

/-- A path within a folder. -/
def join (folder name : Path) : Path :=
  if isAbsolute name || folder == "" then name
  else if folder.toList.getLast? == some '/' then folder ++ name
  else folder ++ "/" ++ name

/-- May a folder hold a file of this name? -/
def isLegalName (name : String) : Bool :=
  name.utf8ByteSize ≤ 255 && !name.toList.contains '\x00'

end Path

end ChatArchive.Files
