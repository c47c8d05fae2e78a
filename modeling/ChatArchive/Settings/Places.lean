import ChatArchive.Files.Basic
import ChatArchive.Settings.Text

/-!
# Places

Where settings, the browser profile and the cache are unless something else is said, and how
settings are loaded from a file.
-/

namespace ChatArchive

open Files (Path)

/-- The folders in which a platform keeps what belongs to applications. -/
structure Platform where
  configFolder : Path
  dataFolder : Path
  cacheFolder : Path

namespace Platform

/-- The name of the application's own folder in each of them. -/
def folderName : String := "chat-history-manager"

/-- The file of the settings. -/
def settingsPath (p : Platform) : Path :=
  Path.join (Path.join p.configFolder folderName) "config.toml"

/-- The folder of the browser profile. -/
def profilePath (p : Platform) : Path :=
  Path.join (Path.join p.dataFolder folderName) "browser-profile"

/-- The folder of the snapshots. -/
def cachePath (p : Platform) : Path := Path.join p.cacheFolder folderName

end Platform

/-- Why settings cannot be loaded. -/
inductive SettingsFault where
  | unreadable (path : Path)
  | invalid (path : Path)
  deriving Repr, DecidableEq

/-- The message of a fault, which names the file. -/
def SettingsFault.message : SettingsFault → String
  | unreadable path => "Failed to read config file " ++ path
  | invalid path => "Invalid config file " ++ path

/-- Load settings from a file.  Where there is none all settings have their defaults. -/
def Settings.load (fs : Files) (path : Path) : Except SettingsFault Settings :=
  match fs.readText path with
  | .missing => .ok .default
  | .unreadable => .error (.unreadable path)
  | .text text =>
    match Settings.ofText? text with
    | some s => .ok s
    | none => .error (.invalid path)

end ChatArchive
