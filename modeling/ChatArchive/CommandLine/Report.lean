import ChatArchive.Calendar.Printer
import ChatArchive.Files.Path
import ChatArchive.Store.Basic
import ChatArchive.Text.Display

/-!
# Reports

What searches and statistics print: lines of text.  Titles and previews are shortened and without
control characters.
-/

namespace ChatArchive.CommandLine

open Files (Path)

/-! ## Columns -/

/-- The width of the column of times. -/
def timeWidth : Nat := 12

/-- The greatest widths of titles and previews. -/
def titleWidth : Nat := 70

/-- How many characters of a preview are shown. -/
def previewWidth : Nat := 110

/-- A text at the right of a column. -/
def padLeft (width : Nat) (text : String) : String :=
  String.ofList (List.replicate (width - text.length) ' ') ++ text

/-- A line with a time, or none, in its column. -/
def columns (time text : String) : String := padLeft timeWidth time ++ "  " ++ text

/-! ## Searches -/

/-- Where the query was found, behind the title. -/
def labelText (hit : Option Record.Hit) : String :=
  match hit with
  | some h => "  [" ++ h.place.label ++ "]"
  | none => ""

/-- The lines of a record: its time and title, its identifier, and the preview if there is one. -/
def recordLines (now : Timestamp) (r : Record) : List String :=
  let preview := (r.hit.map fun h => h.preview).getD ""
  [columns (r.updatedAt.toDisplayText now)
      (Text.lineText titleWidth r.title.text ++ labelText r.hit),
    columns "" r.id] ++
  (if preview = "" then [] else [columns "" (Text.lineText previewWidth preview)])

/-- The line about records that are not shown. -/
def moreLines (total limit : Nat) : List String :=
  if limit < total then
    ["... " ++ toString (total - limit) ++ " more (use --limit to show more)"]
  else []

/-- The line about a cache without records. -/
def emptyText (folder : Path) : String := "No cached conversations in " ++ folder

/-- What a search of a store with records prints. -/
def searchLines (now : Timestamp) (limit : Nat) (s : Store) : List String :=
  (s.visible.take limit).flatMap (recordLines now) ++ moreLines s.view.length limit ++
    [toString s.view.length ++ " of " ++ toString s.size ++ " conversations matched"]

/-! ## Statistics -/

/-- The earliest time of a record. -/
def oldestUpdate? (s : Store) : Option Timestamp :=
  s.records.foldl (fun best r =>
    match best with
    | some t => some (if r.updatedAt.before t then r.updatedAt else t)
    | none => some r.updatedAt) none

/-- A line about a time, if there is one. -/
def timeLines (title : String) (t : Option Timestamp) : List String :=
  t.toList.map fun t => title ++ ": " ++ t.toReportText

/-- The statistics of a store. -/
def statsLines (folder : Path) (s : Store) : List String :=
  ["Conversation Cache Statistics",
    "=============================",
    "Total conversations: " ++ toString s.stats.total,
    "  Content indexed: " ++ toString s.stats.indexed,
    "",
    "Cache directory: " ++ folder] ++
  timeLines "Newest update" s.newestUpdate? ++ timeLines "Oldest update" (oldestUpdate? s)

end ChatArchive.CommandLine
