import ChatArchive.Files.Write
import ChatArchive.Operation.Reply
import ChatArchive.Operation.Script
import ChatArchive.Operation.Status
import ChatArchive.Settings.Basic
import ChatArchive.Store.Merge

/-!
# Tasks

What an operation does besides driving the browser: it names itself, builds the script for the
page, and merges the result into the workspace.
-/

namespace ChatArchive

/-- What operations change: the store, and files where something is exported. -/
structure Workspace where
  store : Store
  files : Files

namespace Operation

/-- What is known once the page is ready. -/
structure ReadyContext where
  organization : String
  apiBase : String

/-- The task of an operation.  Its script is made from what is known of the page alone: a task could
also look at the operation it belongs to, and could act when that is cancelled, but none of the four
tasks does either. -/
structure Task (α : Type) where
  title : String
  initialStatus : String
  mode : ProgressMode
  /-- The number of items, if it is known. -/
  total : Option Nat
  timeout : Span
  /-- The script for the page. -/
  script : ReadyContext → Except Failure String
  /-- Merge the result.  The clock is the one at that time. -/
  merge : Clock → ScriptResult → Workspace → Workspace × Except Failure α
  /-- What is shown after a number of items. -/
  progressText : Nat → String

namespace Task

/-- What is shown of progress unless a task says it otherwise. -/
def processedText (total : Option Nat) (count : Nat) : String :=
  match total with
  | some n => "Processed " ++ toString count ++ " of " ++ toString n
  | none => "Processed " ++ toString count

/-- Progress through a known number of items. -/
def countText (verb : String) (total count : Nat) : String :=
  verb ++ " " ++ toString count ++ " of " ++ toString total

/-- The script of a body and its parameters. -/
def scriptOf (context : ReadyContext) (params : List (String × Json.Node)) (body : List String) :
    String :=
  Script.build (Script.config context.apiBase context.organization params) (Text.join "\n" body)

/-- Identifiers as a parameter. -/
def idsParam (ids : List String) : String × Json.Node := ("ids", .arr (ids.map .str))

/-- What an operation shows of itself before it runs. -/
def prepare {α : Type} (t : Task α) (owner : Option String) : Progress where
  title := t.title
  owner := owner
  status := .initializing
  statusText := t.initialStatus
  count := 0
  total := t.total
  mode := t.mode

end Task

end Operation

end ChatArchive
