import ChatArchive.Settings.Basic
import ChatArchive.Text.Basic
import ChatArchive.Url.Reader

/-!
# Setups

What every operation needs to know of the settings: the page to open, when it is ready, and how
often it is polled.
-/

namespace ChatArchive.Operation

/-- What every operation needs to know. -/
structure Setup where
  /-- The folder of the browser profile. -/
  profileDir : String
  /-- The page to open. -/
  entry : Url
  /-- The page is ready once its path starts with this. -/
  readyPrefix : String
  apiBase : String
  organizationCookie : String
  /-- The time between two polls, in milliseconds. -/
  pollMillis : Nat
  /-- The time from the page being ready to its use, in milliseconds. -/
  settleMillis : Nat
  /-- Polls have some time between them.  Only setups that are made from settings are meant
  (`Setup.ofSettings`), which raise a shorter interval to 10 milliseconds; the program makes no
  others, though its record of a setup could hold any interval. -/
  pollMillis_ge : 10 ≤ pollMillis

/-- Why settings make no setup. -/
inductive SetupFault where
  | badBase
  | badEntry
  deriving Repr, DecidableEq

/-- The message of a fault in the settings of the service. -/
def SetupFault.message : SetupFault → String
  | badBase => "Invalid service base_url"
  | badEntry => "Invalid service entry_path"

/-- The page to open: the entry as seen from the base. -/
def entryOf (s : ServiceSettings) : Except SetupFault Url :=
  match Url.ofText? s.baseUrl with
  | none => .error .badBase
  | some base =>
    match base.join? s.entryPath with
    | none => .error .badEntry
    | some entry => .ok entry

/-- A text without slashes at its end. -/
def withoutEndSlashes (text : String) : String :=
  String.ofList (text.toList.reverse.dropWhile (· == '/')).reverse

/-- The setup of settings; `profileDir` is the folder of the browser profile unless they name
one. -/
def Setup.ofSettings (s : Settings) (profileDir : String) : Except SetupFault Setup := do
  let entry ← entryOf s.service
  return {
    profileDir := s.profileDir.getD profileDir
    entry := entry
    readyPrefix := s.service.readyPrefix
    apiBase := withoutEndSlashes s.service.apiBase
    organizationCookie := s.service.organizationCookie
    pollMillis := s.operations.pollInterval
    settleMillis := s.operations.settleMillis
    pollMillis_ge := Nat.le_max_right _ _ }

/-- Is a page ready? -/
def Setup.isReady (s : Setup) (page : Url) : Bool :=
  s.readyPrefix.toList.isPrefixOf page.pathText.toList

end ChatArchive.Operation
