import ChatArchive.Calendar.Timestamp
import ChatArchive.Text.Basic
import ChatArchive.Word

/-!
# Reading dates and timestamps

A timestamp is a date, a time and an offset from universal time.  Readers are lenient about
blanks: they may stand before every number of the date and the time, and around the offset.  A
number of two places may have one digit, and a year may have a sign and then any number of
digits.
-/

namespace ChatArchive.Calendar

open ChatArchive.Text

/-- Why a text is no date or timestamp. -/
inductive TimeFault where
  | outOfRange
  | wrongCharacter
  | tooShort
  | tooLong
  /-- The instant lies beyond the first or the last day. -/
  | noInstant
  deriving Repr, DecidableEq

/-- The message of a fault. -/
def TimeFault.message : TimeFault → String
  | outOfRange => "input is out of range"
  | wrongCharacter => "input contains invalid characters"
  | tooShort => "premature end of input"
  | tooLong => "trailing input"
  | noInstant => "no possible date and time matching input"

/-- What a step reads, and the text after it. -/
abbrev Step (α : Type) := List Char → Except TimeFault (α × List Char)

/-! ## Numbers and marks -/

/-- The value of a digit. -/
def digitOf (c : Char) : Nat := c.toNat - '0'.toNat

/-- The greatest number that is read. -/
def greatestNumber : Nat := Word.maxNat 63

/-- A number of at most `width` digits, or of any number of them. -/
def readDigits (width : Option Nat) : Step Nat := fun cs =>
  match cs with
  | [] => .error .tooShort
  | c :: _ =>
    if !c.isDigit then .error .wrongCharacter
    else
      let run := cs.takeWhile Char.isDigit
      let digits := match width with
        | some w => run.take w
        | none => run
      let n := digits.foldl (fun n d => n * 10 + digitOf d) 0
      if greatestNumber < n then .error .outOfRange else .ok (n, cs.drop digits.length)

/-- A number of at most two digits within bounds; blanks may stand before it. -/
def readField (low high : Nat) : Step Nat := fun cs => do
  let (n, rest) ← readDigits (some 2) (trimStart cs)
  if low ≤ n ∧ n ≤ high then .ok (n, rest) else .error .outOfRange

/-- A year: four digits at most, or a sign and any number of digits. -/
def readYear : Step Int := fun cs => do
  let (year, rest) ← match trimStart cs with
    | '-' :: tail => (readDigits none tail).map fun (n, rest) => (-(n : Int), rest)
    | '+' :: tail => (readDigits none tail).map fun (n, rest) => ((n : Int), rest)
    | tail => (readDigits (some 4) tail).map fun (n, rest) => ((n : Int), rest)
  if Word.holdsInt 32 year then .ok (year, rest) else .error .outOfRange

/-- A mark that has to stand here. -/
def expectMark (mark : Char) : List Char → Except TimeFault (List Char)
  | [] => .error .tooShort
  | c :: rest => if c = mark then .ok rest else .error .wrongCharacter

/-! ## Dates -/

/-- A year, a month and a day; `gap` may take blanks before the marks. -/
def readCivil (gap : List Char → List Char) : Step Civil := fun cs => do
  let (year, cs) ← readYear cs
  let cs ← expectMark '-' (gap cs)
  let (month, cs) ← readField 1 12 cs
  let cs ← expectMark '-' (gap cs)
  let (day, cs) ← readField 1 31 cs
  .ok (⟨year, month, day⟩, cs)

/-- The date that a text of ten bytes denotes. -/
def dateOfText? (text : String) : Option Date :=
  if text.utf8ByteSize ≠ 10 then none
  else match readCivil id text.toList with
    | .ok (c, []) => Date.ofCivil? c.year c.month c.day
    | _ => none

/-! ## Times -/

/-- A time of day; a second of 60 is a leap second. -/
structure TimeOfDay where
  hour : Nat
  minute : Nat
  second : Nat
  nano : Nat

/-- A fraction of a second in nanoseconds; digits after the ninth do not count. -/
def readFraction : Step Nat := fun cs =>
  match cs with
  | '.' :: tail => do
    let (n, rest) ← readDigits (some 9) tail
    let width := tail.length - rest.length
    .ok (n * Nat.pow 10 (9 - width), rest.dropWhile Char.isDigit)
  | _ => .ok (0, cs)

/-- A time of day. -/
def readTimeOfDay : Step TimeOfDay := fun cs => do
  let (hour, cs) ← readField 0 23 cs
  let cs ← expectMark ':' (trimStart cs)
  let (minute, cs) ← readField 0 59 cs
  let cs ← expectMark ':' (trimStart cs)
  let (second, cs) ← readField 0 60 cs
  let (nano, cs) ← readFraction cs
  .ok (⟨hour, minute, second, nano⟩, cs)

/-! ## Offsets -/

/-- Exactly two digits.  A text of fewer than two bytes is too short. -/
def readTwoDigits : Step Nat := fun cs =>
  match cs with
  | a :: b :: rest =>
    if a.isDigit && b.isDigit then .ok (digitOf a * 10 + digitOf b, rest)
    else .error .wrongCharacter
  | [a] => .error (if a.utf8Size < 2 then .tooShort else .wrongCharacter)
  | [] => .error .tooShort

/-- The sign of an offset: is it behind universal time? -/
def readOffsetSign : Step Bool := fun cs =>
  match cs with
  | [] => .error .tooShort
  | '+' :: rest => .ok (false, rest)
  | '-' :: rest => .ok (true, rest)
  | '\u2212' :: rest => .ok (true, rest)
  | _ => .error .wrongCharacter

/-- Hours and minutes with a sign, in seconds. -/
def readSignedOffset : Step Int := fun cs => do
  let (behind, cs) ← readOffsetSign cs
  let (hours, cs) ← readTwoDigits cs
  let (minutes, cs) ← readTwoDigits (cs.dropWhile fun c => c == ':' || isBlank c)
  if 60 ≤ minutes then .error .outOfRange
  else
    let seconds : Int := hours * 3600 + minutes * 60
    .ok (if behind then -seconds else seconds, cs)

/-- An offset from universal time, in seconds: the letter Z, the letters UTC, or hours and
minutes. -/
def readOffset : Step Int := fun cs =>
  match cs with
  | u :: t :: c :: rest =>
    if u.toLower = 'u' ∧ t.toLower = 't' ∧ c.toLower = 'c' then .ok (0, rest)
    else if u = 'Z' ∨ u = 'z' then .ok (0, t :: c :: rest)
    else readSignedOffset cs
  | z :: rest => if z = 'Z' ∨ z = 'z' then .ok (0, rest) else readSignedOffset cs
  | [] => readSignedOffset []

/-! ## Timestamps -/

/-- The letter between the date and the time; a space will do. -/
def readSeparator : List Char → Except TimeFault (List Char)
  | [] => .error .tooShort
  | c :: rest => if c = 'T' ∨ c = 't' ∨ c = ' ' then .ok rest else .error .wrongCharacter

/-- The instant of a day, a time and an offset. -/
def instantOf (c : Civil) (t : TimeOfDay) (offset : Int) : Except TimeFault Timestamp :=
  match Date.ofCivil? c.year c.month c.day with
  | none => .error .outOfRange
  | some d =>
    if offset.natAbs < 86400 then
      let clockSecond : Int := t.hour * 3600 + t.minute * 60 + (min t.second 59)
      let nano := if t.second = 60 then nanosPerSecond + t.nano else t.nano
      match Timestamp.ofParts? (d.number * secondsPerDay + clockSecond - offset) nano with
      | some instant => .ok instant
      | none => .error .noInstant
    else .error .outOfRange

/-- The instant that a text denotes. -/
def readTimestamp (text : String) : Except TimeFault Timestamp := do
  let (civil, cs) ← readCivil trimStart text.toList
  let cs ← readSeparator cs
  let (time, cs) ← readTimeOfDay cs
  let (offset, cs) ← readOffset (trimStart cs)
  if (trimStart cs).isEmpty then instantOf civil time offset else .error .tooLong

end ChatArchive.Calendar

namespace ChatArchive

/-- The instant that a text denotes. -/
def Timestamp.ofText? (text : String) : Option Timestamp :=
  (Calendar.readTimestamp text).toOption

/-- The date that a text denotes. -/
def Date.ofText? (text : String) : Option Date := Calendar.dateOfText? text

end ChatArchive
