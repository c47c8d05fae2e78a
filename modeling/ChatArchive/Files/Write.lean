import ChatArchive.Files.Basic
import ChatArchive.Json.Printer

/-!
# Writing files

A file is replaced in one step: the bytes are written beside it under a temporary name, and then
that file is renamed.  Missing folders are made.  Where a step fails the temporary file is
removed; folders that were made stay.
-/

namespace ChatArchive.Files

/-- Make the folders that are missing on the way along some parts; gives the place at the end. -/
def makeFolders (fs : Files) (start : Place) : List String → Files × Option Place
  | [] => (fs, some start)
  | part :: rest =>
    if part = ".." then fs.makeFolders start.dropLast rest
    else if !Path.isLegalName part then (fs, none)
    else
      let next := start ++ [part]
      match fs.entry? next with
      | some .folder => fs.makeFolders next rest
      | some (.file _) => (fs, none)
      | none => (fs.set next .folder).makeFolders next rest

/-- The parts of the temporary file that belongs to some parts. -/
def temporaryParts (parts : List String) : List String :=
  match Path.lastName? parts with
  | some name => parts.dropLast ++ [name ++ ".tmp"]
  | none => parts ++ [".tmp"]

/-- The place of a file that can be opened for writing. -/
def writable? (fs : Files) (start : Place) (parts : List String) : Option Place := do
  let p ← fs.placeOf? start parts
  if !fs.isFolder p then some p else none

/-- Rename the file at a place to what a path leads to.  A folder is not replaced. -/
def rename? (fs : Files) (source : Place) (bytes : ByteArray) (target : Path) : Option Files := do
  if Path.namesFolder target then none
  else
    let p ← fs.writable? (fs.startOf target) (Path.parts target)
    some ((fs.erase source).set p (.file bytes))

/-- Replace a file; was it replaced?  A null character on the way to the folder of the file keeps
that from being made; one in the name of the file is met only when the folder is there. -/
def write (fs : Files) (target : Path) (bytes : ByteArray) : Files × Bool :=
  let parts := Path.parts target
  if Path.hasNull parts.dropLast then (fs, false)
  else match fs.makeFolders (fs.startOf target) parts.dropLast with
    | (ready, none) => (ready, false)
    | (ready, some _) =>
      match ready.writable? (fs.startOf target) (temporaryParts parts) with
      | none => (ready, false)
      | some temporary =>
        let written := ready.set temporary (.file bytes)
        match written.rename? temporary bytes target with
        | some done => (done, true)
        | none => (written.erase temporary, false)

/-- Replace a file by a text. -/
def writeText (fs : Files) (target : Path) (text : String) : Files × Bool :=
  fs.write target text.toUTF8

/-- Replace a file by the indented text of a node. -/
def writeJson (fs : Files) (target : Path) (n : Json.Node) : Files × Bool :=
  fs.writeText target n.toPrettyText

end ChatArchive.Files
