import ChatArchive.Calendar.Date
import ChatArchive.Json.Fault
import ChatArchive.Word

/-!
# Failures of operations

Why an operation ended without a result, and the message of each reason.
-/

namespace ChatArchive

/-! ## Spans of time -/

/-- A span of time: whole seconds and nanoseconds below a second. -/
structure Span where
  seconds : Nat
  nanos : Nat
  deriving Repr, DecidableEq

namespace Span

/-- Some seconds. -/
def ofSeconds (n : Nat) : Span := ⟨n, 0⟩

/-- Some milliseconds. -/
def ofMillis (n : Nat) : Span := ⟨n / 1000, n % 1000 * 1000000⟩

/-- Drop zeros at the end. -/
def dropZeros (ds : List Char) : List Char := (ds.reverse.dropWhile (· == '0')).reverse

/-- A whole number and a fraction of `places` digits, without zeros at the end. -/
def decimal (whole fraction places : Nat) : String :=
  let ds := dropZeros (Calendar.padded places fraction)
  toString whole ++ (if fraction = 0 then "" else "." ++ String.ofList ds)

/-- A span in the greatest of seconds, milliseconds, microseconds and nanoseconds of which it holds
at least one. -/
def toText (s : Span) : String :=
  if 0 < s.seconds then decimal s.seconds s.nanos 9 ++ "s"
  else if 1000000 ≤ s.nanos then decimal (s.nanos / 1000000) (s.nanos % 1000000) 6 ++ "ms"
  else if 1000 ≤ s.nanos then decimal (s.nanos / 1000) (s.nanos % 1000) 3 ++ "µs"
  else toString s.nanos ++ "ns"

/-- The milliseconds that hold a span. -/
def toMillis (s : Span) : Nat := s.seconds * 1000 + (s.nanos + 999999) / 1000000

/-- Can a clock that shows `start` now tell when the span is over?  It counts the seconds in 63
bits. -/
def isReachable (s start : Span) : Bool :=
  start.seconds + s.seconds + (start.nanos + s.nanos) / 1000000000 ≤ Word.maxNat 63

end Span

namespace Operation

/-! ## Reasons -/

/-- Why a browser did not do what it was asked. -/
inductive BrowserFault where
  | launch (reason : String)
  | navigation (url reason : String)
  | evaluation (reason : String)
  | closed
  deriving Repr, DecidableEq

/-- The message of a fault of the browser. -/
def BrowserFault.message : BrowserFault → String
  | launch reason => "failed to launch browser session: " ++ reason
  | navigation url reason => "navigation to " ++ url ++ " failed: " ++ reason
  | evaluation reason => "script evaluation failed: " ++ reason
  | closed => "browser session is closed"

/-- Why an operation ended without a result. -/
inductive Failure where
  | cancelled
  | timedOut (limit : Span)
  | loginExpired
  | noOrganization
  | session (fault : BrowserFault)
  | injection (reason : String)
  | script (reason : String)
  | payload (fault : Json.Fault)
  /-- The output could not be written; the reason is the file system's. -/
  | output (reason : String)

namespace Failure

/-- The message of a failure, with that of the fault which it stems from. -/
def message : Failure → String
  | cancelled => "operation cancelled"
  | timedOut limit => "operation timed out after " ++ limit.toText
  | loginExpired => "authentication expired, please log in again"
  | noOrganization => "no active organization found in browser session"
  | session fault => fault.message
  | injection reason => "failed to inject operation script: " ++ reason
  | script reason => "remote script failed: " ++ reason
  | payload fault => "malformed operation result: " ++ fault.message
  | output reason => "failed to write output: " ++ reason

/-- May the same operation succeed if it is run again? -/
def isRetryable : Failure → Bool
  | timedOut _ | session _ => true
  | _ => false

end Failure

end Operation

end ChatArchive
