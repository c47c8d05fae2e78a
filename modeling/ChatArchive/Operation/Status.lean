/-!
# Status and progress

An operation is prepared, waits for the page, runs, and ends in one of four ways.  It never goes
back, an end is final, and only a running operation can be completed.
-/

namespace ChatArchive.Operation

/-- How far an operation is. -/
inductive Status where
  | initializing
  | awaitingReady
  | running
  | cancelled
  | timedOut
  | completed
  | failed
  deriving Repr, DecidableEq

namespace Status

/-- Has the operation ended? -/
def isTerminal : Status → Bool
  | cancelled | timedOut | completed | failed => true
  | initializing | awaitingReady | running => false

/-- The place of a status in the order of an operation. -/
def rank : Status → Nat
  | initializing => 0
  | awaitingReady => 1
  | running => 2
  | cancelled | timedOut | completed | failed => 3

/-- May an operation go on from one status to the next? -/
def canGoTo (s next : Status) : Bool :=
  !s.isTerminal && s.rank < next.rank && (next != completed || s == running)

/-- The status after an attempt to go on. -/
def goTo (s next : Status) : Status := if s.canGoTo next then next else s

end Status

/-- How progress is shown. -/
inductive ProgressMode where
  /-- A count without an end. -/
  | counter
  /-- A part of a total. -/
  | determinate
  deriving Repr, DecidableEq

/-- What an operation shows of itself. -/
structure Progress where
  title : String
  owner : Option String
  status : Status
  statusText : String
  count : Nat
  total : Option Nat
  mode : ProgressMode
  deriving Repr, DecidableEq

namespace Progress

/-- The part that is done, if it is known. -/
def fraction? (p : Progress) : Option Float :=
  match p.mode, p.total with
  | .determinate, some total =>
    if total = 0 then none
    else
      let f := (UInt64.ofNat p.count).toFloat / (UInt64.ofNat total).toFloat
      some (if 1.0 < f then 1.0 else f)
  | _, _ => none

/-- Go on to a status if that is allowed. -/
def goTo (p : Progress) (next : Status) : Progress := { p with status := p.status.goTo next }

/-- Show a text. -/
def say (p : Progress) (text : String) : Progress := { p with statusText := text }

/-- Take a reading of the counter, and tell by how much it raises the count.  A reading that is not
greater changes nothing. -/
def record (p : Progress) (reading : Nat) : Progress × Nat :=
  if p.count < reading then ({ p with count := reading }, reading - p.count) else (p, 0)

end Progress

end ChatArchive.Operation
