import ChatArchive.Operation.Drive

/-!
# Runs

A run drives the browser until its work is done, or until it is cancelled or its time is up if that
comes first.  At the same instant a cancel comes before the deadline, and both before the work.
The result is merged into the workspace only when the work is done; the session is closed in any
case.
-/

namespace ChatArchive.Operation

/-- What came of a run. -/
structure Ending (α : Type) where
  /-- When it was decided. -/
  time : Nat
  outcome : Except Failure α
  /-- What the operation shows of itself at the end. -/
  progress : Progress
  calls : List Call
  workspace : Workspace

namespace Progress

/-- The status at the end. -/
def finalStatus {α : Type} : Except Failure α → Status
  | .ok _ => .completed
  | .error .cancelled => .cancelled
  | .error (.timedOut _) => .timedOut
  | .error _ => .failed

/-- The text at the end. -/
def finalText {α : Type} : Except Failure α → String
  | .ok _ => "Completed"
  | .error .cancelled => "Cancelled"
  | .error (.timedOut _) => "Timed out"
  | .error f => "Failed: " ++ f.message

/-- Show the end. -/
def finish {α : Type} (p : Progress) (outcome : Except Failure α) : Progress :=
  (p.goTo (finalStatus outcome)).say (finalText outcome)

end Progress

/-! ## The limit -/

/-- When a run is cut off: at a cancel or at the deadline. -/
def limit (deadline : Nat) (cancelAt : Option Nat) : Nat :=
  match cancelAt with
  | some c => min c deadline
  | none => deadline

/-- Why a run is cut off. -/
def cutOff (timeout : Span) (cancelAt : Option Nat) : Failure :=
  match cancelAt with
  | some c => if c ≤ timeout.toMillis then .cancelled else .timedOut timeout
  | none => .timedOut timeout

/-! ## Runs -/

variable {α : Type} (setup : Setup) (browser : Browser) (task : Task α)

/-- The drive of a run, as far as it comes before the limit. -/
def driveTo (limit : Nat) (shown : Progress) : Drive :=
  (Drive.start shown).advance setup browser task limit

/-- Merge the result of a drive that is over. -/
def settle (clock : Clock) (outcome : Except Failure ScriptResult) (w : Workspace) :
    Workspace × Except Failure α :=
  match outcome with
  | .ok r => task.merge clock r w
  | .error f => (w, .error f)

/-- Show the end of a drive, and close its session. -/
def conclude (s : Drive) (time : Nat) (w : Workspace) (outcome : Except Failure α) : Ending α :=
  let shown := s.progress.finish outcome
  let calls := if s.isOpen then ⟨time, .close, shown⟩ :: s.calls else s.calls
  ⟨time, outcome, shown, calls.reverse, w⟩

/-- Run an operation that shows `shown` of itself, with a timeout that ends at a time the steady
clock can show (`perform` has the other case).  The clock is the one at the end. -/
def run (cancelAt : Option Nat) (clock : Clock) (shown : Progress) (w : Workspace) : Ending α :=
  let until_ := limit task.timeout.toMillis cancelAt
  let s := driveTo setup browser task until_ shown
  match s.stage with
  | .ended result =>
    let (merged, outcome) := settle task clock result w
    conclude s s.time merged outcome
  | _ => conclude s until_ w (.error (cutOff task.timeout cancelAt))

/-- Prepare an operation for an owner and run it.  The steady clock shows `start` when the run
begins; unless it is said otherwise, that is a second after its origin.  If this clock can never
show that the time is up, there is a panic before anything is done, and no run. -/
def perform (owner : Option String) (cancelAt : Option Nat) (clock : Clock) (w : Workspace)
    (start : Span := .ofSeconds 1) : Option (Ending α) :=
  if task.timeout.isReachable start then
    some (run setup browser task cancelAt clock (task.prepare owner) w)
  else none

end ChatArchive.Operation
