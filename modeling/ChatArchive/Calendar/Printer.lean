import ChatArchive.Calendar.Timestamp

/-!
# Writing timestamps

Three forms: the exact one, with as few digits of the second as are exact in groups of three; one
to the second for reports; and one for people, relative for the last week and a date before that.
-/

namespace ChatArchive.Calendar

/-! ## Time of day -/

/-- Hour, minute and second; a leap second is the second 60. -/
def clockText (t : Timestamp) : List Char :=
  let s := t.secondOfDay.toNat
  let second := if nanosPerSecond ≤ t.nano then s % 60 + 1 else s % 60
  padded 2 (s / 3600) ++ ':' :: padded 2 (s / 60 % 60) ++ ':' :: padded 2 second

/-- The fraction of a second with three, six or nine digits, or none. -/
def fractionText (nano : Nat) : List Char :=
  let n := nano % nanosPerSecond
  if n = 0 then []
  else if n % 1000000 = 0 then '.' :: padded 3 (n / 1000000)
  else if n % 1000 = 0 then '.' :: padded 6 (n / 1000)
  else '.' :: padded 9 n

/-- The short name of a month. -/
def monthName (month : Nat) : String :=
  ["Jan", "Feb", "Mar", "Apr", "May", "Jun", "Jul", "Aug", "Sep", "Oct", "Nov", "Dec"].getD
    (month - 1) ""

/-- Elapsed seconds in the greatest unit that fits. -/
def elapsedText (seconds : Int) : String :=
  let minutes := seconds.tdiv 60
  let hours := minutes.tdiv 60
  let days := hours.tdiv 24
  if 0 < days then toString days ++ "d ago"
  else if 0 < hours then toString hours ++ "h ago"
  else if 0 < minutes then toString minutes ++ "m ago"
  else "just now"

end ChatArchive.Calendar

namespace ChatArchive.Timestamp

open ChatArchive.Calendar

/-- The exact text. -/
def toText (t : Timestamp) : String :=
  t.date.toText ++ String.ofList ('T' :: clockText t ++ fractionText t.nano ++ ['Z'])

/-- The text to the second. -/
def toReportText (t : Timestamp) : String :=
  t.date.toText ++ String.ofList (' ' :: clockText t)

/-- The text for people who read it at a given time.  What lies ahead is just now. -/
def toDisplayText (t now : Timestamp) : String :=
  let seconds := (now.since t).tdiv nanosPerSecond
  if seconds.tdiv 86400 < 7 then elapsedText seconds
  else
    let c := t.date.civil
    let day := monthName c.month ++ " " ++ toString c.day
    if c.year = now.date.civil.year then day
    else day ++ ", " ++ String.ofList (yearText c.year)

end ChatArchive.Timestamp
