import ChatArchive.CommandLine.Run
import Std.Time.DateTime.Timestamp

/-!
# The program

The files that a command line is about are read, `CommandLine.run` says what is printed and what
the files are to be, and that is done.
-/

namespace ChatArchive.Program

open Files (Path Place Entry)

/-! ## Surroundings -/

/-- The time. -/
def now : IO Timestamp := do
  let t := (← Std.Time.Timestamp.now).toDurationSinceUnixEpoch
  return (Timestamp.ofParts? t.second.val t.nano.val.toNat).getD Timestamp.epoch

/-- A folder that the environment names by a path from the root, or else one in the home folder. -/
def folderOf (setting inHome : String) : IO Path := do
  let home := (← IO.getEnv "HOME").getD "/"
  match (← IO.getEnv setting).filter Path.isAbsolute with
  | some path => return path
  | none => return Path.join home inHome

/-- The folders of the platform. -/
def platform : IO Platform := do
  return {
    configFolder := ← folderOf "XDG_CONFIG_HOME" ".config"
    dataFolder := ← folderOf "XDG_DATA_HOME" ".local/share"
    cacheFolder := ← folderOf "XDG_CACHE_HOME" ".cache" }

/-! ## Files -/

/-- The path of a place. -/
def pathOf (p : Place) : Path := "/" ++ Text.join "/" p

/-- What a place holds.  What is there but cannot be read as a file counts as a folder. -/
def entryAt (p : Place) : IO (Option Entry) := do
  try
    return some (.file (← IO.FS.readBinFile (pathOf p)))
  catch e =>
    match e with
    | .noFileOrDirectory .. => return none
    | _ => return some .folder

/-- Read what the places along some parts hold, up to the first that is no folder. -/
def readAlong (fs : Files) (start : Place) : List String → IO Files
  | [] => return fs
  | part :: rest =>
    if part = ".." then readAlong fs start.dropLast rest
    else do
      let next := start ++ [part]
      match ← entryAt next with
      | none => return fs
      | some (.file bytes) => return fs.set next (.file bytes)
      | some .folder => readAlong (fs.set next .folder) next rest

/-- Read what some paths lead to. -/
def readFiles (paths : List Path) : IO Files := do
  let here := Path.parts (toString (← IO.currentDir))
  let working ← readAlong ⟨[], here⟩ [] here
  paths.foldlM (fun fs p => readAlong fs (fs.startOf p) (Path.parts p)) working

/-- Write the entries that were not there before.  A file is replaced in one step. -/
def writeFiles (old new : Files) : IO Unit := do
  for (place, entry) in new.entries do
    match entry, old.entry? place with
    | .folder, none => IO.FS.createDir (pathOf place)
    | .folder, some _ => pure ()
    | .file bytes, before =>
      let isSame := match before with
        | some (.file old) => old == bytes
        | _ => false
      if !isSame then
        IO.FS.writeBinFile (pathOf place ++ ".tmp") bytes
        IO.FS.rename (pathOf place ++ ".tmp") (pathOf place)

/-! ## Runs -/

/-- Print a message about an error. -/
def complain (message : String) : IO Unit := do
  (← IO.getStderr).putStrLn ("Error: " ++ message)

/-- Do what a command line asks for, and give the status to end with. -/
def perform (words : List String) : IO Nat := do
  let platform ← platform
  let time ← now
  let old ← readFiles (CommandLine.pathsOf platform words)
  let (new, ending) := CommandLine.run platform (fun _ => time) old words
  writeFiles old new
  (← IO.getStdout).putStr ending.output
  match ending with
  | .failed f => complain f.message
  | .refused => complain "unexpected arguments; use --help for usage information"
  | .done _ | .aborted => pure ()
  return ending.exitCode

end ChatArchive.Program

/-- The program. -/
def main (words : List String) : IO UInt32 := do
  return UInt32.ofNat (← ChatArchive.Program.perform words)
