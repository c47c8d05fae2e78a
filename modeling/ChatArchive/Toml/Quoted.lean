import ChatArchive.Text.Basic

/-!
# Quoted strings

A string is written in one of four forms: in double quotes with escapes, or in single quotes as it
is, each on one line or, in three quotes, on several.  Which form is taken depends on what would
have to be escaped.
-/

namespace ChatArchive.Toml

open ChatArchive.Unicode (CharSet)

/-! ## Writing -/

/-- The form of a quoted string. -/
inductive QuoteForm where
  | basic
  | literal
  | longBasic
  | longLiteral
  deriving Repr, DecidableEq

/-- Does a character have to be written by its code?  Tabs and line breaks can stand in some
form. -/
def needsCode (c : Char) : Bool := (c.toNat < 0x20 && c != '\t' && c != '\n') || c == '\x7F'

/-- The length of the longest run of a character. -/
def longestRun (mark : Char) (cs : List Char) : Nat :=
  (cs.foldl (fun (best, run) c => if c = mark then (max best (run + 1), run + 1) else (best, 0))
    (0, 0)).1

/-- The form in which a string is written: the first that needs no escapes, in the order double
quotes, single quotes, three double quotes, three single quotes.  If none does without, double
quotes are taken. -/
def formOf (cs : List Char) : QuoteForm :=
  let coded := cs.any needsCode
  let broken := cs.contains '\n'
  let escaped := cs.contains '\\'
  let doubles := longestRun '"' cs
  let singles := longestRun '\'' cs
  if !coded && !escaped && doubles = 0 && !broken then .basic
  else if !coded && singles = 0 && !broken then .literal
  else if !coded && !escaped && doubles ≤ 2 then .longBasic
  else if !coded && singles ≤ 2 then .longLiteral
  else if broken then .longBasic
  else .basic

/-- A character by its code. -/
def codeEscape (c : Char) : List Char :=
  ['\\', 'u'] ++ [4096, 256, 16, 1].map fun place => Text.hexCapital (c.toNat / place % 16)

/-- A character other than a double quote in double quotes; `long` if in three of them. -/
def escapeChar (long : Bool) (c : Char) : List Char :=
  if c = '\x08' then ['\\', 'b']
  else if c = '\t' then ['\\', 't']
  else if c = '\n' then if long then ['\n'] else ['\\', 'n']
  else if c = '\x0C' then ['\\', 'f']
  else if c = '\r' then ['\\', 'r']
  else if c = '\\' then ['\\', '\\']
  else if needsCode c then codeEscape c
  else [c]

/-- A text in double quotes.  Before the text stand `run` quotes, of which `room` may stand next to
each other. -/
def escapeFrom (long : Bool) (room run : Nat) : List Char → List Char
  | [] => []
  | '"' :: cs =>
    if run < room then '"' :: escapeFrom long room (run + 1) cs
    else '\\' :: '"' :: escapeFrom long room 0 cs
  | c :: cs => escapeChar long c ++ escapeFrom long room 0 cs

/-- A string in quotes.  In the forms of several lines a text with line breaks begins on a line of
its own. -/
def quoted (s : String) : List Char :=
  let cs := s.toList
  let lead := if cs.contains '\n' then ['\n'] else []
  match formOf cs with
  | .basic => ['"'] ++ escapeFrom false 0 0 cs ++ ['"']
  | .literal => ['\''] ++ cs ++ ['\'']
  | .longBasic => ['"', '"', '"'] ++ lead ++ escapeFrom true 2 0 cs ++ ['"', '"', '"']
  | .longLiteral => ['\'', '\'', '\''] ++ lead ++ cs ++ ['\'', '\'', '\'']

/-! ## Reading -/

/-- May a character stand in a quoted string or a comment?  Controls other than tabs may not. -/
def isPlain (c : Char) : Bool := c == '\t' || (0x20 ≤ c.toNat && c != '\x7F')

/-- The character of a code in hexadecimal digits at the start of a text, and what follows. -/
def readCode (digits : Nat) (cs : List Char) : Option (Char × List Char) := do
  let ds := cs.take digits
  if ds.length < digits then none
  let n ← ds.foldlM (fun n d => (CharSet.hexDigit? d).map (n * 16 + ·)) 0
  if n.isValidChar then some (Char.ofNat n, cs.drop digits) else none

/-- The character of an escape, which starts after the backslash, and what follows. -/
def readEscape (cs : List Char) : Option (Char × List Char) :=
  match cs with
  | '"' :: rest => some ('"', rest)
  | '\\' :: rest => some ('\\', rest)
  | 'b' :: rest => some ('\x08', rest)
  | 'e' :: rest => some ('\x1B', rest)
  | 'f' :: rest => some ('\x0C', rest)
  | 'n' :: rest => some ('\n', rest)
  | 'r' :: rest => some ('\r', rest)
  | 't' :: rest => some ('\t', rest)
  | 'x' :: rest => readCode 2 rest
  | 'u' :: rest => readCode 4 rest
  | 'U' :: rest => readCode 8 rest
  | _ => none

/-- The text in double quotes, and what follows them.  Every step shortens what is left to read, so
its length bounds the steps; so it does in the readers below. -/
def readBasic : Nat → List Char → Option (List Char × List Char)
  | 0, _ => none
  | bound + 1, cs =>
    match cs with
    | [] => none
    | '"' :: rest => some ([], rest)
    | '\\' :: rest => do
      let (c, rest) ← readEscape rest
      let (text, rest) ← readBasic bound rest
      some (c :: text, rest)
    | c :: rest =>
      if isPlain c then do
        let (text, rest) ← readBasic bound rest
        some (c :: text, rest)
      else none

/-- The text in single quotes, and what follows them. -/
def readLiteral : List Char → Option (List Char × List Char)
  | [] => none
  | '\'' :: rest => some ([], rest)
  | c :: rest =>
    if isPlain c then do
      let (text, rest) ← readLiteral rest
      some (c :: text, rest)
    else none

/-- What follows a line break, if that is what a text starts with. -/
def lineBreak? : List Char → Option (List Char × List Char)
  | '\n' :: rest => some (['\n'], rest)
  | '\r' :: '\n' :: rest => some (['\r', '\n'], rest)
  | _ => none

/-- What follows the line break that the text of a long form may begin with. -/
def skipLead (cs : List Char) : List Char :=
  match lineBreak? cs with
  | some (_, rest) => rest
  | none => cs

/-- Quotes in front of the three that close a long form, and what follows.  Up to two belong to the
text. -/
def closeLong (mark : Char) (cs : List Char) : List Char × List Char :=
  match cs with
  | a :: b :: rest =>
    if a = mark ∧ b = mark then ([mark, mark], rest)
    else if a = mark then ([mark], b :: rest)
    else ([], cs)
  | [a] => if a = mark then ([mark], []) else ([], cs)
  | [] => ([], [])

/-- Is a character a blank within a line? -/
def isGap (c : Char) : Bool := c == ' ' || c == '\t'

/-- What follows a backslash at the end of a line: the next character that is no blank. -/
def skipFold (cs : List Char) : Option (List Char) :=
  (lineBreak? (cs.dropWhile isGap)).map fun (_, rest) =>
    rest.dropWhile fun c => isGap c || c == '\n' || c == '\r'

/-- The text in three double quotes, and what follows them. -/
def readLongBasic : Nat → List Char → Option (List Char × List Char)
  | 0, _ => none
  | bound + 1, cs =>
    match cs with
    | [] => none
    | '"' :: '"' :: '"' :: rest => some (closeLong '"' rest)
    | '\\' :: rest =>
      match readEscape rest with
      | some (c, rest) => do
        let (text, rest) ← readLongBasic bound rest
        some (c :: text, rest)
      | none => do
        let rest ← skipFold rest
        readLongBasic bound rest
    | c :: rest =>
      match lineBreak? (c :: rest) with
      | some (line, rest) => do
        let (text, rest) ← readLongBasic bound rest
        some (line ++ text, rest)
      | none =>
        if isPlain c then do
          let (text, rest) ← readLongBasic bound rest
          some (c :: text, rest)
        else none

/-- The text in three single quotes, and what follows them. -/
def readLongLiteral : Nat → List Char → Option (List Char × List Char)
  | 0, _ => none
  | bound + 1, cs =>
    match cs with
    | [] => none
    | '\'' :: '\'' :: '\'' :: rest => some (closeLong '\'' rest)
    | c :: rest =>
      match lineBreak? (c :: rest) with
      | some (line, rest) => do
        let (text, rest) ← readLongLiteral bound rest
        some (line ++ text, rest)
      | none =>
        if isPlain c then do
          let (text, rest) ← readLongLiteral bound rest
          some (c :: text, rest)
        else none

/-- A string on one line at the start of a text, and what follows it. -/
def readShort (cs : List Char) : Option (String × List Char) :=
  let read := match cs with
    | '"' :: rest => readBasic (rest.length + 1) rest
    | '\'' :: rest => readLiteral rest
    | _ => none
  read.map fun (text, rest) => (String.ofList text, rest)

/-- A string at the start of a text, and what follows it. -/
def readQuoted (cs : List Char) : Option (String × List Char) :=
  let long := match cs with
    | '"' :: '"' :: '"' :: rest => some (readLongBasic (rest.length + 1) (skipLead rest))
    | '\'' :: '\'' :: '\'' :: rest => some (readLongLiteral (rest.length + 1) (skipLead rest))
    | _ => none
  match long with
  | some read => read.map fun (text, rest) => (String.ofList text, rest)
  | none => readShort cs

end ChatArchive.Toml
