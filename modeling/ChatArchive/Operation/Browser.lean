import ChatArchive.Json.Basic
import ChatArchive.Operation.Failure
import ChatArchive.Operation.Status
import ChatArchive.Url.Basic

/-!
# Browsers

A browser is what it answers to the calls of an operation, and how long that takes.  Times are in
milliseconds.
-/

namespace ChatArchive.Operation

/-- An answer of a browser after some time. -/
structure Answer (α : Type) where
  delay : Nat
  outcome : Except BrowserFault α

/-- What a browser answers.  Addresses and polls are asked for again and again: the `k`-th time,
counted from zero, is answered by `address k` and `poll k`. -/
structure Browser where
  launch : Answer Unit
  navigate : Answer Unit
  address : Nat → Answer Url
  cookie : Answer (Option String)
  inject : Answer Unit
  poll : Nat → Answer Json

/-- The answers of a list in order, and then `last` for ever. -/
def Answer.sequence {α : Type} (answers : List (Answer α)) (last : Answer α) (k : Nat) : Answer α :=
  answers.getD k last

/-- What an operation asks of a browser. -/
inductive Action where
  /-- Open a session with a profile. -/
  | launch (profileDir : String)
  | navigate (page : Url)
  | readAddress
  | readCookie (name : String)
  | inject (script : String)
  /-- Evaluate the expression that reads the three globals of the script, which is the same in every
  poll. -/
  | poll
  | close
  deriving Repr, DecidableEq

/-- A call of a browser, and what the operation shows of itself at that moment. -/
structure Call where
  time : Nat
  action : Action
  shown : Progress
  deriving Repr, DecidableEq

end ChatArchive.Operation
