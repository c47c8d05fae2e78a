import ChatArchive.Json.Fault
import ChatArchive.Unicode.CharSet
import ChatArchive.Word

/-!
# Reading JSON

A text is read into a `Raw` tree before anything is decoded.  Reading never fails: where the text
is wrong the tree holds the fault, so that decoding, which goes through the tree in order, meets
the faults of the syntax and those of the shape in the order of the text.

What a fault means depends on whether the part is decoded or skipped.  A part that is complete
but has no value, such as a number that is too large, is no fault when it is skipped, and some
faults have another message then.
-/

namespace ChatArchive.Json

open ChatArchive.Unicode (CharSet)

/-! ## Trees -/

/-- How an array ends. -/
inductive ArrayStop where
  | closed
  /-- The text ends where a comma or a bracket should stand. -/
  | atEnd
  /-- A bracket follows a comma. -/
  | afterComma
  /-- The text ends after a comma. -/
  | endAfterComma
  /-- Something else stands where a comma or a bracket should. -/
  | junk
  /-- The last item is broken. -/
  | cut
  deriving Repr, DecidableEq

/-- How an object ends. -/
inductive ObjectStop where
  | closed
  /-- The text ends where a comma or a brace should stand. -/
  | atEnd
  /-- A brace follows a comma. -/
  | afterComma
  /-- The text ends after a comma. -/
  | endAfterComma
  /-- Something else stands where a comma or a brace should. -/
  | junk
  /-- A name is not a string. -/
  | badKey
  /-- A name is a broken string. -/
  | brokenKey (onRead onSkip : Fault)
  /-- The last member is broken. -/
  | cut

/-- A JSON text with its faults. -/
inductive Raw where
  | null
  | bool (b : Bool)
  | num (n : Number)
  | str (s : String)
  /-- Complete, but without a value. -/
  | unreadable (fault : Fault)
  /-- Incomplete or wrong; nothing follows. -/
  | broken (onRead onSkip : Fault)
  | arr (items : List Raw) (stop : ArrayStop)
  /-- A name is a string, or the fault of a complete one without a value. -/
  | obj (members : List (Except Fault String × Raw)) (stop : ObjectStop)

instance : Inhabited Raw := ⟨.null⟩

/-! ## Blanks and words -/

/-- The four blanks of JSON. -/
def isJsonBlank (c : Char) : Bool := c == ' ' || c == '\n' || c == '\t' || c == '\r'

/-- Drop the blanks in front. -/
def skipBlanks (cs : List Char) : List Char := cs.dropWhile isJsonBlank

/-- Read the rest of a word. -/
def expectWord : List Char → List Char → Except Fault (List Char)
  | [], cs => .ok cs
  | _ :: _, [] => .error .valueMissing
  | w :: ws, c :: cs => if c = w then expectWord ws cs else .error .identExpected

/-! ## Strings -/

/-- The value of four hexadecimal digits, and what follows them.  With fewer than four bytes left
the string is not closed. -/
def readHex4 (cs : List Char) : Except Fault (Nat × List Char) :=
  match cs with
  | a :: b :: c :: d :: rest =>
    match CharSet.hexDigit? a, CharSet.hexDigit? b, CharSet.hexDigit? c, CharSet.hexDigit? d with
    | some a, some b, some c, some d => .ok (a * 4096 + b * 256 + c * 16 + d, rest)
    | _, _, _, _ => .error .badEscape
  | _ =>
    if (String.ofList cs).utf8ByteSize < 4 then .error .stringUnclosed else .error .badEscape

/-- The character of a one-letter escape. -/
def escapedChar? (c : Char) : Option Char :=
  match c with
  | '"' => some '"'
  | '\\' => some '\\'
  | '/' => some '/'
  | 'b' => some '\x08'
  | 'f' => some '\x0c'
  | 'n' => some '\n'
  | 'r' => some '\r'
  | 't' => some '\t'
  | _ => none

/-- The character of a hexadecimal escape, which starts after the `u`.  A leading surrogate has to
be followed by the escape of a trailing one. -/
def readHexEscape (cs : List Char) : Except Fault (Char × List Char) := do
  let (n, rest) ← readHex4 cs
  if 0xDC00 ≤ n ∧ n ≤ 0xDFFF then .error .loneSurrogate
  else if 0xD800 ≤ n ∧ n ≤ 0xDBFF then
    match rest with
    | [] => .error .stringUnclosed
    | '\\' :: [] => .error .stringUnclosed
    | '\\' :: 'u' :: tail =>
      let (m, rest) ← readHex4 tail
      if 0xDC00 ≤ m ∧ m ≤ 0xDFFF then
        .ok (Char.ofNat (0x10000 + (n - 0xD800) * 0x400 + (m - 0xDC00)), rest)
      else .error .loneSurrogate
    | _ => .error .hexEscapeUnfinished
  else .ok (Char.ofNat n, rest)

/-- The string whose characters so far are `out`, backwards; the text starts within the quotes.
Every step shortens the text, so its length bounds the steps. -/
def readString : Nat → List Char → List Char → Except Fault (String × List Char)
  | 0, _, _ => .error .stringUnclosed
  | bound + 1, out, cs =>
    match cs with
    | [] => .error .stringUnclosed
    | '"' :: rest => .ok (String.ofList out.reverse, rest)
    | '\\' :: rest =>
      match rest with
      | [] => .error .stringUnclosed
      | 'u' :: tail => do
        let (c, rest) ← readHexEscape tail
        readString bound (c :: out) rest
      | c :: tail =>
        match escapedChar? c with
        | some d => readString bound (d :: out) tail
        | none => .error .badEscape
    | c :: rest =>
      if c.toNat < 0x20 then .error .controlCharacter else readString bound (c :: out) rest

/-- What follows a string that is skipped: its hexadecimal escapes need not be characters. -/
def skipString : Nat → List Char → Except Fault (List Char)
  | 0, _ => .error .stringUnclosed
  | bound + 1, cs =>
    match cs with
    | [] => .error .stringUnclosed
    | '"' :: rest => .ok rest
    | '\\' :: rest =>
      match rest with
      | [] => .error .stringUnclosed
      | 'u' :: tail => do
        let (_, rest) ← readHex4 tail
        skipString bound rest
      | c :: tail =>
        match escapedChar? c with
        | some _ => skipString bound tail
        | none => .error .badEscape
    | c :: rest => if c.toNat < 0x20 then .error .controlCharacter else skipString bound rest

/-! ## Numbers -/

/-- The value of a digit. -/
def digitValue (c : Char) : Nat := c.toNat - '0'.toNat

/-- Take digits into a significand of 64 bits; gives the significand, the number of digits taken,
and the text from the first digit that no longer fits, or from what is no digit. -/
def takeSignificand : Nat → Nat → List Char → Nat × Nat × List Char
  | n, taken, [] => (n, taken, [])
  | n, taken, c :: cs =>
    if c.isDigit then
      let m := n * 10 + digitValue c
      if m < Word.size 64 then takeSignificand m (taken + 1) cs else (n, taken, c :: cs)
    else (n, taken, c :: cs)

/-- Does the text start with a digit? -/
def startsWithDigit : List Char → Bool
  | c :: _ => c.isDigit
  | [] => false

/-- A power of ten as a floating-point number. -/
def powerOfTen (k : Nat) : Float := Float.ofScientific 1 false k

/-- `f * 10 ^ exponent`, by one multiplication or division where the power of ten is a number, and
by dividing repeatedly below that.  More than the greatest number is a fault. -/
def scaleFloat : Nat → Float → Int → Except Fault Float
  | 0, f, _ => .ok f
  | bound + 1, f, exponent =>
    if exponent.natAbs ≤ 308 then
      if 0 ≤ exponent then
        let r := f * powerOfTen exponent.toNat
        if r.isInf then .error .numberTooLarge else .ok r
      else .ok (f / powerOfTen exponent.natAbs)
    else if f == 0.0 then .ok f
    else if 0 ≤ exponent then .error .numberTooLarge
    else scaleFloat bound (f / powerOfTen 308) (exponent + 308)

/-- The floating-point number of a sign, a significand and an exponent.  A significand of 64 bits
is zero after two divisions by the greatest power, so that few steps suffice. -/
def floatOf (negative : Bool) (significand : Nat) (exponent : Int) : Except Fault Number := do
  let f ← scaleFloat 16 (UInt64.ofNat significand).toFloat exponent
  .ok (.float (if negative then -f else f))

/-- Keep an exponent within 32 bits. -/
def clampExponent (e : Int) : Int := max (Word.minInt 32) (min e (Word.maxInt 32))

/-- The exponent of a number and what it makes of the significand; the text starts after the
letter. -/
def readExponent (negative : Bool) (significand : Nat) (start : Int) (cs : List Char) :
    Except Fault (Number × List Char) :=
  let (down, cs) := match cs with
    | '+' :: rest => (false, rest)
    | '-' :: rest => (true, rest)
    | _ => (false, cs)
  match cs with
  | [] => .error .valueMissing
  | c :: _ =>
    if !c.isDigit then .error .badNumber
    else
      let digits := cs.takeWhile Char.isDigit
      let rest := cs.drop digits.length
      let e := digits.foldl (fun n d => n * 10 + digitValue d) 0
      if e ≤ Word.maxNat 31 then do
        let n ← floatOf negative significand (clampExponent (if down then start - e else start + e))
        .ok (n, rest)
      else if significand ≠ 0 ∧ !down then .error .numberTooLarge
      else .ok (.float (if negative then -0.0 else 0.0), rest)

/-- The part after the digits of a floating-point number: an exponent, or nothing. -/
def finishFloat (negative : Bool) (significand : Nat) (exponent : Int) (cs : List Char) :
    Except Fault (Number × List Char) :=
  match cs with
  | c :: rest =>
    if c = 'e' ∨ c = 'E' then readExponent negative significand exponent rest
    else do .ok (← floatOf negative significand exponent, cs)
  | [] => do .ok (← floatOf negative significand exponent, [])

/-- The fraction of a number; the text starts after the point.  Digits that no longer fit the
significand do not count. -/
def readFraction (negative : Bool) (significand : Nat) (exponent : Int) (cs : List Char) :
    Except Fault (Number × List Char) :=
  let (n, taken, rest) := takeSignificand significand 0 cs
  if startsWithDigit rest then
    finishFloat negative n (exponent - taken) (rest.dropWhile Char.isDigit)
  else if taken = 0 then .error (if rest.isEmpty then .valueMissing else .badNumber)
  else finishFloat negative n (exponent - taken) rest

/-- A number without its sign.  Zeros may not lead. -/
def readUnsigned (negative : Bool) (cs : List Char) : Except Fault (Number × List Char) :=
  match cs with
  | [] => .error .valueMissing
  | c :: tail =>
    if !c.isDigit then .error .badNumber
    else if c = '0' ∧ startsWithDigit tail then .error .badNumber
    else
      let (n, _, rest) := takeSignificand 0 0 cs
      if startsWithDigit rest then
        let more := rest.takeWhile Char.isDigit
        let rest := rest.drop more.length
        match rest with
        | '.' :: fraction => readFraction negative n more.length fraction
        | _ => finishFloat negative n more.length rest
      else match rest with
        | '.' :: fraction => readFraction negative n 0 fraction
        | c :: _ =>
          if c = 'e' ∨ c = 'E' then finishFloat negative n 0 rest
          else .ok (whole n, rest)
        | [] => .ok (whole n, rest)
where
  /-- An integer that fits 64 bits with its sign; any other is a floating-point number. -/
  whole (n : Nat) : Number :=
    if !negative then .int n
    else if n = 0 ∨ Word.size 63 < n then .float (-(UInt64.ofNat n).toFloat)
    else .int (-n)

/-- A number. -/
def readNumber (cs : List Char) : Except Fault (Number × List Char) :=
  match cs with
  | '-' :: rest => readUnsigned true rest
  | _ => readUnsigned false cs

/-- What follows the exponent of a number that is skipped. -/
def skipExponent (cs : List Char) : Except Fault (List Char) :=
  let cs := match cs with
    | '+' :: rest => rest
    | '-' :: rest => rest
    | _ => cs
  if startsWithDigit cs then .ok (cs.dropWhile Char.isDigit) else .error .badNumber

/-- What follows a number that is skipped. -/
def skipNumber (cs : List Char) : Except Fault (List Char) :=
  let cs := match cs with
    | '-' :: rest => rest
    | _ => cs
  match cs with
  | [] => .error .badNumber
  | c :: tail =>
    if !c.isDigit then .error .badNumber
    else if c = '0' ∧ startsWithDigit tail then .error .badNumber
    else match cs.dropWhile Char.isDigit with
      | '.' :: fraction =>
        if startsWithDigit fraction then
          match fraction.dropWhile Char.isDigit with
          | c :: rest => if c = 'e' ∨ c = 'E' then skipExponent rest else .ok (c :: rest)
          | [] => .ok []
        else .error .badNumber
      | c :: rest => if c = 'e' ∨ c = 'E' then skipExponent rest else .ok (c :: rest)
      | [] => .ok []

/-! ## Values -/

/-- A part and what follows it; nothing follows a part that is broken. -/
abbrev Part := Raw × Option (List Char)

/-- Combine reading and skipping of a part that starts here. -/
def partOf {α : Type} (read : Except Fault (α × List Char)) (skip : Unit → Except Fault (List Char))
    (make : α → Raw) : Part :=
  match read with
  | .ok (a, rest) => (make a, some rest)
  | .error onRead =>
    match skip () with
    | .ok rest => (.unreadable onRead, some rest)
    | .error onSkip => (.broken onRead onSkip, none)

/-- A word such as `null`. -/
def readWord (word : String) (value : Raw) (cs : List Char) : Part :=
  match expectWord word.toList cs with
  | .ok rest => (value, some rest)
  | .error f => (.broken f f, none)

mutual

/-- A value.  Every level and every item takes at least one character, so that the length of the
text bounds the depth of the calls. -/
def readRaw : Nat → List Char → Part
  | 0, _ => (.broken .valueMissing .valueMissing, none)
  | bound + 1, cs =>
    match skipBlanks cs with
    | [] => (.broken .valueMissing .valueMissing, none)
    | c :: rest =>
      if c = 'n' then readWord "ull" .null rest
      else if c = 't' then readWord "rue" (.bool true) rest
      else if c = 'f' then readWord "alse" (.bool false) rest
      else if c = '"' then
        partOf (readString (rest.length + 1) [] rest) (fun _ => skipString (rest.length + 1) rest)
          .str
      else if c = '-' ∨ c.isDigit then
        partOf (readNumber (c :: rest)) (fun _ => skipNumber (c :: rest)) .num
      else if c = '[' then readItems bound [] rest
      else if c = '\x7b' then readMembers bound [] rest
      else (.broken .valueExpected .valueExpected, none)

/-- The items of an array, after those already read, backwards. -/
def readItems : Nat → List Raw → List Char → Part
  | 0, done, _ => (.arr done.reverse .atEnd, none)
  | bound + 1, done, cs =>
    match skipBlanks cs with
    | [] => (.arr done.reverse .atEnd, none)
    | c :: rest =>
      if c = ']' then (.arr done.reverse .closed, some rest)
      else if done.isEmpty then readItem bound done (c :: rest)
      else if c = ',' then
        match skipBlanks rest with
        | [] => (.arr done.reverse .endAfterComma, none)
        | d :: more =>
          if d = ']' then (.arr done.reverse .afterComma, none)
          else readItem bound done (d :: more)
      else (.arr done.reverse .junk, none)

/-- One item, and those after it. -/
def readItem : Nat → List Raw → List Char → Part
  | 0, done, _ => (.arr done.reverse .atEnd, none)
  | bound + 1, done, cs =>
    match readRaw bound cs with
    | (item, some rest) => readItems bound (item :: done) rest
    | (item, none) => (.arr (item :: done).reverse .cut, none)

/-- The members of an object, after those already read, backwards. -/
def readMembers : Nat → List (Except Fault String × Raw) → List Char → Part
  | 0, done, _ => (.obj done.reverse .atEnd, none)
  | bound + 1, done, cs =>
    match skipBlanks cs with
    | [] => (.obj done.reverse .atEnd, none)
    | c :: rest =>
      if c = '\x7d' then (.obj done.reverse .closed, some rest)
      else if done.isEmpty then
        if c = '"' then readMember bound done rest else (.obj done.reverse .badKey, none)
      else if c = ',' then
        match skipBlanks rest with
        | [] => (.obj done.reverse .endAfterComma, none)
        | d :: more =>
          if d = '"' then readMember bound done more
          else if d = '\x7d' then (.obj done.reverse .afterComma, none)
          else (.obj done.reverse .badKey, none)
      else (.obj done.reverse .junk, none)

/-- One member, whose name starts within the quotes, and those after it. -/
def readMember : Nat → List (Except Fault String × Raw) → List Char → Part
  | 0, done, _ => (.obj done.reverse .atEnd, none)
  | bound + 1, done, cs =>
    let name :=
      match readString (cs.length + 1) [] cs with
      | .ok (s, rest) => Except.ok (Except.ok s, rest)
      | .error onRead =>
        match skipString (cs.length + 1) cs with
        | .ok rest => .ok (.error onRead, rest)
        | .error onSkip => .error (onRead, onSkip)
    match name with
    | .error (onRead, onSkip) => (.obj done.reverse (.brokenKey onRead onSkip), none)
    | .ok (key, rest) =>
      match skipBlanks rest with
      | [] =>
        (.obj ((key, .broken .objectUnclosed .objectUnclosed) :: done).reverse .cut, none)
      | ':' :: rest =>
        match readRaw bound rest with
        | (value, some rest) => readMembers bound ((key, value) :: done) rest
        | (value, none) => (.obj ((key, value) :: done).reverse .cut, none)
      | _ :: _ =>
        (.obj ((key, .broken .colonExpected .colonExpected) :: done).reverse .cut, none)

end

/-- The tree of a text and what follows it. -/
def readDocument (cs : List Char) : Part := readRaw (4 * cs.length + 4) cs

end ChatArchive.Json
