import ChatArchive.Files.Path

/-!
# Files

A tree of folders and files, as a list of the places that are taken.  A place is the list of the
names from the root.  Paths that do not start at the root start at the working folder.
-/

namespace ChatArchive

namespace Files

/-- The names from the root. -/
abbrev Place := List String

/-- What a place holds. -/
inductive Entry where
  | file (bytes : ByteArray)
  | folder

/-- Is this a folder? -/
def Entry.isFolder : Entry → Bool
  | folder => true
  | file _ => false

end Files

open Files (Place Entry Path)

/-- Folders and files. -/
structure Files where
  entries : List (Place × Entry)
  /-- The working folder. -/
  here : Place

namespace Files

/-! ## Places -/

/-- What a place holds; the root is a folder. -/
def entry? (fs : Files) (p : Place) : Option Entry :=
  if p.isEmpty then some .folder else (fs.entries.find? fun e => e.1 == p).map (·.2)

/-- Is there a folder? -/
def isFolder (fs : Files) (p : Place) : Bool := (fs.entry? p).any Entry.isFolder

/-- Put an entry at a place. -/
def set (fs : Files) (p : Place) (e : Entry) : Files :=
  if fs.entries.any fun x => x.1 == p then
    { fs with entries := fs.entries.map fun x => if x.1 == p then (p, e) else x }
  else { fs with entries := fs.entries ++ [(p, e)] }

/-- Empty a place. -/
def erase (fs : Files) (p : Place) : Files :=
  { fs with entries := fs.entries.filter fun x => x.1 != p }

/-- Where a path starts. -/
def startOf (fs : Files) (p : Path) : Place := if Path.isAbsolute p then [] else fs.here

/-- The place that some parts lead to.  All but the last have to be folders. -/
def placeOf? (fs : Files) (start : Place) : List String → Option Place
  | [] => some start
  | part :: rest =>
    if !fs.isFolder start then none
    else if part = ".." then fs.placeOf? start.dropLast rest
    else if Path.isLegalName part then fs.placeOf? (start ++ [part]) rest
    else none

/-- What a path leads to.  A file is not found under the name of a folder. -/
def find? (fs : Files) (p : Path) : Option Entry := do
  if p == "" then none
  else
    let e ← fs.entry? (← fs.placeOf? (fs.startOf p) (Path.parts p))
    if Path.namesFolder p && !e.isFolder then none else some e

/-! ## Reading -/

/-- What comes of reading a text. -/
inductive Reading where
  | missing
  /-- A folder, or bytes that are no text. -/
  | unreadable
  | text (s : String)

/-- Read a text. -/
def readText (fs : Files) (p : Path) : Reading :=
  match fs.find? p with
  | none => .missing
  | some .folder => .unreadable
  | some (.file bytes) =>
    match String.fromUTF8? bytes with
    | some s => .text s
    | none => .unreadable

end Files

end ChatArchive
