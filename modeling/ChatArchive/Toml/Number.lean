import ChatArchive.Calendar.Date
import ChatArchive.Text.Basic
import ChatArchive.Toml.Basic
import ChatArchive.Word

/-!
# Numbers, times and truth values

Scalars that are not quoted are words without blanks and brackets, but for the blank that may stand
between a date and a time of day.
-/

namespace ChatArchive.Toml

open ChatArchive.Unicode (CharSet)

/-! ## Digits -/

/-- The digits of a number with single underscores between them, without these. -/
def groupedDigits (isDigit : Char → Bool) : List Char → Option (List Char)
  | [] => none
  | [d] => if isDigit d then some [d] else none
  | d :: '_' :: rest =>
    if isDigit d then (groupedDigits isDigit rest).map (d :: ·) else none
  | d :: e :: rest =>
    if isDigit d then (groupedDigits isDigit (e :: rest)).map (d :: ·) else none

/-- The value of digits in a base. -/
def valueOf (base : Nat) (ds : List Char) : Nat :=
  ds.foldl (fun n d => n * base + (CharSet.hexDigit? d).getD 0) 0

/-- Is a character a digit in a base? -/
def isDigitOf (base : Nat) (c : Char) : Bool := (CharSet.hexDigit? c).any (· < base)

/-- A sign and what follows it: is it a minus? -/
def cutSign : List Char → Bool × List Char
  | '-' :: cs => (true, cs)
  | '+' :: cs => (false, cs)
  | cs => (false, cs)

/-- A decimal number without zeros in front. -/
def wholeNumber? (cs : List Char) : Option Nat := do
  let ds ← groupedDigits Char.isDigit cs
  match ds with
  | '0' :: _ :: _ => none
  | _ => some (valueOf 10 ds)

/-- A number in a base other than ten. -/
def basedNumber? (base : Nat) (cs : List Char) : Option Int :=
  (groupedDigits (isDigitOf base) cs).map fun ds => (valueOf base ds : Int)

/-- An integer. -/
def integer? (cs : List Char) : Option Int :=
  match cs with
  | '0' :: 'x' :: ds => basedNumber? 16 ds
  | '0' :: 'o' :: ds => basedNumber? 8 ds
  | '0' :: 'b' :: ds => basedNumber? 2 ds
  | _ =>
    let (negative, ds) := cutSign cs
    (wholeNumber? ds).map fun n => if negative then -(n : Int) else n

/-- Has an integer at most 128 bits? -/
def isBounded (n : Int) : Bool := Word.holds 128 n

/-! ## Numbers with a fraction -/

/-- What stands before a mark, and what stands behind it if it occurs. -/
def cutAtMark (isMark : Char → Bool) (cs : List Char) : List Char × Option (List Char) :=
  match cs.span fun c => !isMark c with
  | (before, _ :: after) => (before, some after)
  | (before, []) => (before, none)

/-- Is a word a number with a fraction or an exponent, or one of the words for what is no number? -/
def isFloat (cs : List Char) : Bool :=
  let body := (cutSign cs).2
  if body = ['i', 'n', 'f'] || body = ['n', 'a', 'n'] then true
  else
    let (mantissa, exponent) := cutAtMark (fun c => c == 'e' || c == 'E') body
    let (whole, fraction) := cutAtMark (· == '.') mantissa
    (fraction.isSome || exponent.isSome) && (wholeNumber? whole).isSome &&
      (fraction.all fun ds => (groupedDigits Char.isDigit ds).isSome) &&
      exponent.all fun ds => (groupedDigits Char.isDigit (cutSign ds).2).isSome

/-! ## Times -/

/-- A number of two digits that is not greater than a bound. -/
def isTwoDigits (least greatest : Nat) : List Char → Bool
  | [a, b] =>
    a.isDigit && b.isDigit && least ≤ valueOf 10 [a, b] && valueOf 10 [a, b] ≤ greatest
  | _ => false

/-- A day of a year. -/
def isDay (cs : List Char) : Bool :=
  match cs with
  | [y, e, a, r, '-', m, n, '-', d, f] =>
    [y, e, a, r].all Char.isDigit && isTwoDigits 1 12 [m, n] &&
      isTwoDigits 1 (Calendar.daysInMonth (valueOf 10 [y, e, a, r]) (valueOf 10 [m, n])) [d, f]
  | _ => false

/-- A time of day, with or without seconds and a fraction of them. -/
def isTimeOfDay (cs : List Char) : Bool :=
  let (clock, fraction) := cutAtMark (· == '.') cs
  (fraction.all fun ds => !ds.isEmpty && ds.all Char.isDigit) &&
    match Text.splitBy (· == ':') clock with
    | [h, m, s] => isTwoDigits 0 23 h && isTwoDigits 0 59 m && isTwoDigits 0 60 s
    | [h, m] => isTwoDigits 0 23 h && isTwoDigits 0 59 m && fraction.isNone
    | _ => false

/-- The distance from universal time. -/
def isOffset (cs : List Char) : Bool :=
  match Text.splitBy (· == ':') cs with
  | [h, m] => isTwoDigits 0 23 h && isTwoDigits 0 59 m
  | _ => false

/-- A time of day, with or without the distance from universal time. -/
def isOffsetTime (cs : List Char) : Bool :=
  let (clock, rest) := cs.span fun c => c.isDigit || c == ':' || c == '.'
  isTimeOfDay clock &&
    match rest with
    | [] | ['Z'] | ['z'] => true
    | sign :: offset => (sign == '+' || sign == '-') && isOffset offset

/-- Is a word a day, a time of day, or both? -/
def isTime (cs : List Char) : Bool :=
  isDay cs || isTimeOfDay cs ||
    (isDay (cs.take 10) &&
      (match cs.drop 10 with
      | mark :: rest => ['t', 'T', ' '].contains mark && isOffsetTime rest
      | [] => false))

/-! ## Words -/

/-- Does a character end a word? -/
def endsWord (c : Char) : Bool :=
  c.toNat ≤ 0x20 || [',', ']', '\x7d', '#', '='].contains c

/-- The word at the start of a text, and what follows it.  A blank between a date and a digit
belongs to it. -/
def cutWord (cs : List Char) : List Char × List Char :=
  let (word, rest) := cs.span fun c => !endsWord c
  match rest with
  | ' ' :: d :: more =>
    if isDay word && d.isDigit then
      let (clock, rest) := (d :: more).span fun c => !endsWord c
      (word ++ [' '] ++ clock, rest)
    else (word, rest)
  | _ => (word, rest)

/-- The scalar that a word stands for. -/
def scalarOfWord (word : List Char) : Option Scalar :=
  if word = ['t', 'r', 'u', 'e'] then some (.boolean true)
  else if word = ['f', 'a', 'l', 's', 'e'] then some (.boolean false)
  else
    match integer? word with
    | some n => if isBounded n then some (.integer n) else none
    | none =>
      if isFloat word then some (.float (String.ofList word))
      else if isTime word then some (.time (String.ofList word))
      else none

/-- The scalar without quotes at the start of a text, and what follows it. -/
def readWord (cs : List Char) : Option (Scalar × List Char) :=
  let (word, rest) := cutWord cs
  (scalarOfWord word).map (·, rest)

end ChatArchive.Toml
