import ChatArchive.CommandLine.Arguments
import ChatArchive.CommandLine.Report
import ChatArchive.Operation.Export
import ChatArchive.Settings.Places
import ChatArchive.Snapshot.Cache

/-!
# Commands

What a command line does: it loads the settings, restores the cached records, and prints what is
asked for.  The only file that a command writes is an export.
-/

namespace ChatArchive.CommandLine

open Files (Path)

/-! ## Faults -/

/-- Why a command is given up. -/
inductive Fault where
  | settings (f : SettingsFault)
  | badAfter (text : String)
  | badBefore (text : String)
  | cache (f : CacheFault)
  | nothingCached (folder : Path)
  | exportFailed (out : Path)

/-- The message of a fault, which is printed in its place. -/
def Fault.message : Fault → String
  | settings f => f.message
  | badAfter text => "Invalid --after date: " ++ text
  | badBefore text => "Invalid --before date: " ++ text
  | cache f => f.message
  | nothingCached folder => emptyText folder
  | exportFailed out => "Failed to export to " ++ out

/-! ## Commands -/

/-- The criteria of a search.  The bound on the earliest time is read first. -/
def Search.criteria (s : Search) : Except Fault Criteria :=
  match Criteria.ofTexts s.query s.after none with
  | .error text => .error (.badAfter text)
  | .ok _ =>
    match Criteria.ofTexts s.query s.after s.before with
    | .error text => .error (.badBefore text)
    | .ok c => .ok (c.withContent s.searchContent)

/-- What a command works with. -/
structure Context where
  settings : Settings
  /-- The folder of the snapshots. -/
  cache : Path
  files : Files
  clock : Clock

namespace Context

/-- The records of the snapshots. -/
def load (c : Context) : Except Fault Store :=
  match Cache.restore c.files c.cache c.settings.cache (c.clock 0) Store.empty with
  | (store, .ok _) => .ok store
  | (_, .error f) => .error (.cache f)

/-- The lines of a search. -/
def search (c : Context) (s : Search) : Except Fault (List String) := do
  let criteria ← s.criteria
  let store ← c.load
  if store.isEmpty then return [emptyText c.cache]
  else return searchLines (c.clock 1) s.limit (store.applyFilter criteria)

/-- The lines of the statistics. -/
def stats (c : Context) : Except Fault (List String) := do
  return statsLines c.cache (← c.load)

/-- The records that a query admits; without a query, all. -/
def selection (store : Store) (query : Option String) : Store :=
  match query with
  | some q => store.applyFilter (Criteria.ofQuery (Query.ofText q))
  | none => store

/-- Export what the listing tells about the records that a query admits. -/
def exportMetadata (c : Context) (out : Path) (query : Option String) :
    Files × Except Fault (List String) :=
  match c.load with
  | .error f => (c.files, .error f)
  | .ok store =>
    if store.isEmpty then (c.files, .error (.nothingCached c.cache))
    else
      let chosen := selection store query
      let ids := chosen.visible.map (·.id)
      match Operation.Export.metadata (c.clock 1) chosen ids c.files out with
      | (files, .ok summary) =>
        (files, .ok ["Exported " ++ toString summary.exported ++ " conversations to " ++
          summary.path])
      | (files, .error _) => (files, .error (.exportFailed out))

/-- The text of some lines. -/
def textOf (lines : List String) : String := String.join (lines.map (· ++ "\n"))

/-- What a command prints, and the files after it. -/
def perform (c : Context) (command : Option Command) : Files × Except Fault String :=
  match command with
  | some (.search s) => (c.files, (c.search s).map textOf)
  | some .stats => (c.files, c.stats.map textOf)
  | some (.exportMetadata out query) =>
    let (files, outcome) := c.exportMetadata out query
    (files, outcome.map textOf)
  | some .settings => (c.files, .ok c.settings.toText)
  | none => (c.files, .ok (textOf ["Use --help for usage information"]))

end Context

/-! ## Command lines -/

/-- The name and version of the program. -/
def versionText : String := "chat-history-manager 0.1.0\n"

/-- How the program is used. -/
def helpText : String :=
  Context.textOf
    ["Search and export cached conversation history",
      "",
      "Usage: chat-history-manager [--config FILE] [--cache-dir DIR] [COMMAND]",
      "",
      "Commands:",
      "  search QUERY [--after DATE] [--before DATE] [--content] [--limit N]",
      "  stats",
      "  export-metadata OUT [QUERY]",
      "  config"]

/-- How a command line ended. -/
inductive Ending where
  /-- It was done. -/
  | done (output : String)
  /-- It was given up. -/
  | failed (f : Fault)
  /-- It could not be understood. -/
  | refused
  /-- The age limit of the snapshots cannot be measured. -/
  | aborted

namespace Ending

/-- The status with which the program ends. -/
def exitCode : Ending → Nat
  | done _ => 0
  | failed _ => 1
  | refused => 2
  | aborted => 101

/-- What is printed. -/
def output : Ending → String
  | done text => text
  | failed _ | refused | aborted => ""

end Ending

/-- The end of what came of a command. -/
def endingOf : Except Fault String → Ending
  | .ok text => .done text
  | .error (.cache .ageOutOfRange) => .aborted
  | .error f => .failed f

/-- The paths that a command line may be about. -/
def pathsOf (platform : Platform) (words : List String) : List Path :=
  match request? words with
  | some (.perform settingsPath cachePath command) =>
    let cache := cachePath.getD platform.cachePath
    let written := match command with
      | some (.exportMetadata out _) => [out, out ++ ".tmp"]
      | _ => []
    [settingsPath.getD platform.settingsPath, Cache.metadataPath cache, Cache.contentPath cache]
      ++ written
  | _ => []

/-- Do what a command line asks for. -/
def run (platform : Platform) (clock : Clock) (files : Files) (words : List String) :
    Files × Ending :=
  match request? words with
  | none => (files, .refused)
  | some .help => (files, .done helpText)
  | some .version => (files, .done versionText)
  | some (.perform settingsPath cachePath command) =>
    match Settings.load files (settingsPath.getD platform.settingsPath) with
    | .error f => (files, .failed (.settings f))
    | .ok settings =>
      let context : Context := ⟨settings, cachePath.getD platform.cachePath, files, clock⟩
      let (files, outcome) := context.perform command
      (files, endingOf outcome)

end ChatArchive.CommandLine
