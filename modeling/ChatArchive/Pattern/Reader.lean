import ChatArchive.Pattern.Syntax
import ChatArchive.Word

/-!
# Reading patterns

The concrete syntax of search patterns.  `Pattern.ofText?` gives nothing for a text that is no
pattern: an unclosed group or class, a repetition of nothing, a back reference, a look-around, an
unknown escape, flag or property, a class range that runs backwards, a group name given twice, or
a nesting deeper than `nestingLimit`.

Readers take the rest of the text and give the rest after what they read.  Those that recurse
carry a bound on their depth, which the length of the text always satisfies.
-/

namespace ChatArchive.Pattern

open ChatArchive.Unicode

/-! ## Flags -/

/-- The flags that are in force at a point of a pattern. -/
structure Flags where
  /-- Letter case does not count. -/
  ignoreCase : Bool
  /-- `^` and `$` also match at lines. -/
  multiLine : Bool
  /-- A dot also matches a line feed. -/
  dotAll : Bool
  /-- Plain repetitions are lazy and those with `?` greedy. -/
  swapGreed : Bool
  /-- Classes and word boundaries know all scripts. -/
  unicode : Bool
  /-- A carriage return ends a line as well. -/
  crlf : Bool
  /-- White space and comments in the pattern do not count. -/
  extended : Bool
  deriving Repr, DecidableEq

/-- Searching ignores letter case and knows all scripts; no other flag is set. -/
def Flags.default : Flags := ⟨true, false, false, false, true, false, false⟩

/-- Set the flag that a letter names. -/
def Flags.set? (f : Flags) (letter : Char) (on : Bool) : Option Flags :=
  match letter with
  | 'i' => some { f with ignoreCase := on }
  | 'm' => some { f with multiLine := on }
  | 's' => some { f with dotAll := on }
  | 'U' => some { f with swapGreed := on }
  | 'u' => some { f with unicode := on }
  | 'R' => some { f with crlf := on }
  | 'x' => some { f with extended := on }
  | _ => none

/-! ## Blanks between the parts -/

/-- Skip what does not count where blanks are allowed: in extended patterns white space, and
comments up to the end of their line. -/
def skipBlanks (f : Flags) (cs : List Char) : List Char :=
  if f.extended then go false cs else cs
where
  go (inComment : Bool) : List Char → List Char
    | [] => []
    | c :: cs =>
      if inComment then go (c != '\n') cs
      else if CharSet.whiteSpace.contains c then go false cs
      else if c = '#' then go true cs
      else c :: cs

/-- Drop the current character and the blanks after it. -/
def advance (f : Flags) (cs : List Char) : List Char := skipBlanks f (cs.drop 1)

/-! ## Numbers -/

/-- The digits at the start, with blanks allowed between them. -/
def takeDigits (f : Flags) : Nat → List Char → List Char × List Char
  | 0, cs => ([], cs)
  | bound + 1, cs =>
    match cs with
    | c :: _ =>
      if c.isDigit then
        let (ds, rest) := takeDigits f bound (advance f cs)
        (c :: ds, rest)
      else ([], cs)
    | [] => ([], [])

/-- The value of decimal digits. -/
def decimalValue (ds : List Char) : Nat :=
  ds.foldl (fun n d => n * 10 + (d.toNat - '0'.toNat)) 0

/-- A repetition count of at most 32 bits, with white space around it. -/
def readCount? (f : Flags) (cs : List Char) : Option (Nat × List Char) := do
  let cs := cs.dropWhile CharSet.whiteSpace.contains
  let (ds, rest) := takeDigits f cs.length cs
  let rest := skipBlanks f (rest.dropWhile CharSet.whiteSpace.contains)
  if ds.isEmpty then none
  else
    let n := decimalValue ds
    if n < Word.size 32 then some (n, rest) else none

/-- The value of hexadecimal digits. -/
def hexValue (ds : List Char) : Nat :=
  ds.foldl (fun n d => n * 16 + (CharSet.hexDigit? d).getD 0) 0

/-- The character of a code point, if there is one. -/
def scalar? (n : Nat) : Option Char :=
  if n.isValidChar then some (Char.ofNat n) else none

/-! ## Escapes -/

/-- What a single character, escape or assertion stands for. -/
inductive Atom where
  /-- A character; `byte` says that it was written as two hexadecimal digits. -/
  | literal (c : Char) (byte : Bool)
  /-- A class of characters. -/
  | cls (s : CharSet)
  /-- A condition on the position. -/
  | look (l : Look)
  deriving Repr

/-- Characters that have a meaning in patterns or classes. -/
def isMeta (c : Char) : Bool :=
  "\\.+*?()|[]\x7b\x7d^$#&-~".toList.contains c

/-- Characters that may be escaped without need. -/
def isEscapable (c : Char) : Bool :=
  isMeta c || (c.toNat ≤ 0x7F && !c.isAlphanum && c != '<' && c != '>')

/-- Exactly `n` hexadecimal digits. -/
def takeHex? (f : Flags) : Nat → List Char → Option (List Char × List Char)
  | 0, cs => some ([], cs)
  | n + 1, cs => do
    let c :: _ := cs | none
    let _ ← CharSet.hexDigit? c
    let (ds, rest) ← takeHex? f n (advance f cs)
    some (c :: ds, rest)

/-- Hexadecimal digits up to a closing brace. -/
def takeBraced? (f : Flags) : Nat → List Char → Option (List Char × List Char)
  | 0, _ => none
  | bound + 1, cs => do
    let c :: _ := cs | none
    if c = '\x7d' then some ([], advance f cs)
    else
      let (ds, rest) ← takeBraced? f bound (advance f cs)
      some (c :: ds, rest)

/-- The character that `\x`, `\u` or `\U` names; the text starts after the letter. -/
def readHex? (f : Flags) (letter : Char) (cs : List Char) : Option (Atom × List Char) := do
  let c :: _ := cs | none
  if c = '\x7b' then
    let (ds, rest) ← takeBraced? f cs.length (advance f cs)
    if ds.isEmpty || !ds.all fun d => (CharSet.hexDigit? d).isSome then none
    else
      let c ← scalar? (hexValue ds)
      some (.literal c false, rest)
  else
    let width := if letter = 'x' then 2 else if letter = 'u' then 4 else 8
    let (ds, rest) ← takeHex? f width cs
    let c ← scalar? (hexValue ds)
    some (.literal c (letter == 'x'), rest)

/-- Split a property expression at its first operator: the name, whether the operator negates,
and the value. -/
def splitProperty (cs : List Char) : List Char × Option (Bool × List Char) :=
  match splitNegated cs with
  | some (a, b) => (a, some (true, b))
  | none =>
    match splitAt ':' cs with
    | some (a, b) => (a, some (false, b))
    | none =>
      match splitAt '=' cs with
      | some (a, b) => (a, some (false, b))
      | none => (cs, none)
where
  splitAt (sep : Char) (cs : List Char) : Option (List Char × List Char) :=
    if cs.contains sep then some (cs.takeWhile (· != sep), (cs.dropWhile (· != sep)).drop 1)
    else none
  splitNegated : List Char → Option (List Char × List Char)
    | [] => none
    | c :: cs =>
      if c = '!' ∧ cs.head? = some '=' then some ([], cs.drop 1)
      else (splitNegated cs).map fun (a, b) => (c :: a, b)

/-- Close a class under letter case if that does not count. -/
def Flags.foldSet (f : Flags) (s : CharSet) : CharSet :=
  if f.ignoreCase then (if f.unicode then foldClosure s else asciiFoldClosure s) else s

/-- A class as it is used: closed under letter case if that does not count, then complemented if
it is negated.  Without the Unicode flag a class stays within ASCII. -/
def Flags.finishSet? (f : Flags) (negated : Bool) (s : CharSet) : Option CharSet :=
  let s := f.foldSet s
  if f.unicode then some (if negated then s.complement else s)
  else if negated || s.ranges.any fun r => 0x7F < r.2 then none
  else some s

/-- The class that `\p` or `\P` names; the text starts after the letter. -/
def readProperty? (f : Flags) (negated : Bool) (cs : List Char) :
    Option (Atom × List Char) := do
  if !f.unicode then none
  else
    let c :: _ := cs | none
    if c = '\x7b' then
      let (body, rest) ← takeName f cs.length (advance f cs)
      let (name, value) := splitProperty body
      let (s, flip) ← match value with
        | none => (namedSet? name).map fun s => (s, false)
        | some (flip, v) => (valuedSet? name v).map fun s => (s, flip)
      let s ← f.finishSet? (negated != flip) s
      some (.cls s, rest)
    else if c = '\\' then none
    else
      let s ← namedSet? [c]
      let s ← f.finishSet? negated s
      some (.cls s, advance f cs)
where
  /-- The text up to the closing brace. -/
  takeName (f : Flags) : Nat → List Char → Option (List Char × List Char)
    | 0, _ => none
    | bound + 1, cs => do
      let c :: _ := cs | none
      if c = '\x7d' then some ([], cs.drop 1)
      else
        let (ds, rest) ← takeName f bound (advance f cs)
        some (c :: ds, rest)

/-- The class of a letter such as `\d` or `\W`. -/
def letterClass? (f : Flags) (letter : Char) : Option CharSet :=
  let s := match letter.toLower with
    | 'd' => if f.unicode then decimalDigits else ⟨[('0'.toNat, '9'.toNat)]⟩
    | 's' => if f.unicode then CharSet.whiteSpace else ⟨[(0x9, 0xD), (0x20, 0x20)]⟩
    | _ => if f.unicode then wordCharacters else asciiWord
  if letter.isUpper then (if f.unicode then some s.complement else none) else some s

/-- The kind of word that boundaries look at. -/
def Flags.wordKind (f : Flags) : WordKind := if f.unicode then .unicode else .ascii

/-- After `\b`: a brace with a name selects one side of a word.  A brace that does not hold
letters is left for a repetition. -/
def readBoundary? (f : Flags) (cs : List Char) : Option (Atom × List Char) :=
  match cs with
  | '\x7b' :: _ =>
    match advance f cs with
    | [] => none
    | c :: rest =>
      if isNameChar c then
        let (name, after) := takeName (rest.length + 1) (c :: rest)
        if after.head? = some '\x7d' then
          (named? (String.ofList name)).map fun l => (.look l, after.drop 1)
        else none
      else some (.look (.wordBoundary f.wordKind), cs)
  | _ => some (.look (.wordBoundary f.wordKind), cs)
where
  isNameChar (c : Char) : Bool := c.isAlpha || c == '-'
  takeName : Nat → List Char → List Char × List Char
    | 0, cs => ([], cs)
    | bound + 1, cs =>
      match cs with
      | c :: _ =>
        if isNameChar c then
          let (ds, rest) := takeName bound (advance f cs)
          (c :: ds, rest)
        else ([], cs)
      | [] => ([], [])
  named? (name : String) : Option Look :=
    match name with
    | "start" => some (.wordStart f.wordKind)
    | "end" => some (.wordEnd f.wordKind)
    | "start-half" => some (.wordStartHalf f.wordKind)
    | "end-half" => some (.wordEndHalf f.wordKind)
    | _ => none

/-- An escape; the text starts after the backslash. -/
def readEscape? (f : Flags) (cs : List Char) : Option (Atom × List Char) :=
  match cs with
  | [] => none
  | c :: rest =>
    if c.isDigit then none
    else if c = 'x' ∨ c = 'u' ∨ c = 'U' then readHex? f c (advance f cs)
    else if c = 'p' ∨ c = 'P' then readProperty? f (c == 'P') (advance f cs)
    else if "dswDSW".toList.contains c then
      (letterClass? f c).map fun s => (.cls s, rest)
    else if isEscapable c then some (.literal c false, rest)
    else match c with
      | 'a' => some (.literal '\x07' false, rest)
      | 'f' => some (.literal '\x0c' false, rest)
      | 't' => some (.literal '\t' false, rest)
      | 'n' => some (.literal '\n' false, rest)
      | 'r' => some (.literal '\r' false, rest)
      | 'v' => some (.literal '\x0b' false, rest)
      | 'A' => some (.look .textStart, rest)
      | 'z' => some (.look .textEnd, rest)
      | 'b' => readBoundary? f rest
      | 'B' => some (.look (.notWordBoundary f.wordKind), rest)
      | '<' => some (.look (.wordStart f.wordKind), rest)
      | '>' => some (.look (.wordEnd f.wordKind), rest)
      | _ => none

/-! ## Classes in brackets -/

/-- A part of a class while it is read: its characters and how deep it nests. -/
structure ClassPart where
  set : CharSet
  depth : Nat
  deriving Repr

/-- The items of a class that were read so far since the last operator. -/
structure ClassItems where
  parts : List ClassPart

/-- The items together.  Several items nest one level deeper than a single one. -/
def ClassItems.join (u : ClassItems) : ClassPart where
  set := CharSet.unions (u.parts.map (·.set))
  depth :=
    let deepest := u.parts.foldl (fun d p => max d p.depth) 0
    if u.parts.length < 2 then deepest else deepest + 1

/-- The operators between parts of a class. -/
inductive ClassOp where
  | inter
  | difference
  | symmDiff
  deriving Repr, DecidableEq

/-- The value of an operation. -/
def ClassOp.apply (f : Flags) (op : ClassOp) (a b : ClassPart) : ClassPart where
  set :=
    let s := f.foldSet a.set
    let t := f.foldSet b.set
    match op with
    | .inter => s.inter t
    | .difference => s.difference t
    | .symmDiff => s.symmDiff t
  depth := max a.depth b.depth + 1

/-- Apply the operator that waits for its right side. -/
def closeOp (f : Flags) (pending : Option (ClassOp × ClassPart)) (right : ClassPart) :
    ClassPart :=
  match pending with
  | none => right
  | some (op, left) => op.apply f left right

/-- The named ASCII classes. -/
def asciiClass? (name : String) : Option CharSet :=
  match name with
  | "alnum" => some ⟨[(0x30, 0x39), (0x41, 0x5A), (0x61, 0x7A)]⟩
  | "alpha" => some ⟨[(0x41, 0x5A), (0x61, 0x7A)]⟩
  | "ascii" => some ⟨[(0x0, 0x7F)]⟩
  | "blank" => some ⟨[(0x9, 0x9), (0x20, 0x20)]⟩
  | "cntrl" => some ⟨[(0x0, 0x1F), (0x7F, 0x7F)]⟩
  | "digit" => some ⟨[(0x30, 0x39)]⟩
  | "graph" => some ⟨[(0x21, 0x7E)]⟩
  | "lower" => some ⟨[(0x61, 0x7A)]⟩
  | "print" => some ⟨[(0x20, 0x7E)]⟩
  | "punct" => some ⟨[(0x21, 0x2F), (0x3A, 0x40), (0x5B, 0x60), (0x7B, 0x7E)]⟩
  | "space" => some ⟨[(0x9, 0xD), (0x20, 0x20)]⟩
  | "upper" => some ⟨[(0x41, 0x5A)]⟩
  | "word" => some asciiWord
  | "xdigit" => some ⟨[(0x30, 0x39), (0x41, 0x46), (0x61, 0x66)]⟩
  | _ => none

/-- A named class such as `[:alpha:]`, if the text has one after its bracket: whether it is
negated, and its characters. -/
def readAsciiClass? (cs : List Char) : Option ((Bool × CharSet) × List Char) := do
  let ':' :: rest := cs | none
  let negated := rest.head? = some '^'
  let rest := if negated then rest.drop 1 else rest
  let name := rest.takeWhile (· != ':')
  let s ← asciiClass? (String.ofList name)
  let ':' :: ']' :: after := rest.drop name.length | none
  some ((negated, s), after)

/-- A member of a class: a character or an escape. -/
def readMember? (f : Flags) (cs : List Char) : Option (Atom × List Char) :=
  match cs with
  | [] => none
  | '\\' :: rest => readEscape? f rest
  | c :: rest => some (.literal c false, rest)

/-- The character of a member that has to be one.  Without the Unicode flag it has to be
ASCII. -/
def memberChar? (f : Flags) : Atom → Option Char
  | .literal c _ => if f.unicode || c.toNat ≤ 0x7F then some c else none
  | _ => none

/-- A member on its own, or a range of two. -/
def readRange? (f : Flags) (cs : List Char) : Option (CharSet × List Char) := do
  let (first, rest) ← readMember? f cs
  let rest := skipBlanks f rest
  let '-' :: tail := rest | single first rest
  let next := (skipBlanks f tail).head?
  if next = some ']' ∨ next = some '-' then single first rest
  else
    let (last, rest) ← readMember? f (skipBlanks f tail)
    let a ← memberChar? f first
    let b ← memberChar? f last
    if a ≤ b then some (CharSet.range a b, rest) else none
where
  single (a : Atom) (rest : List Char) : Option (CharSet × List Char) :=
    match a with
    | .literal _ _ => (memberChar? f a).map fun c => (CharSet.singleton c, rest)
    | .cls s => some (s, rest)
    | .look _ => none

/-- After an opening bracket: whether the class is negated, and the hyphens and the bracket that
count as members because they come first. -/
def openClass? (f : Flags) (cs : List Char) : Option (Bool × ClassItems × List Char) := do
  let cs := skipBlanks f cs
  let c :: _ := cs | none
  let negated := c == '^'
  let cs := if negated then advance f cs else cs
  let (hyphens, cs) := takeHyphens cs.length cs
  let c :: _ := cs | none
  if hyphens = 0 ∧ c = ']' then
    let cs := advance f cs
    if cs.isEmpty then none
    else some (negated, ⟨[⟨CharSet.singleton ']', 0⟩]⟩, cs)
  else some (negated, ⟨List.replicate hyphens ⟨CharSet.singleton '-', 0⟩⟩, cs)
where
  takeHyphens : Nat → List Char → Nat × List Char
    | 0, cs => (0, cs)
    | bound + 1, cs =>
      match cs with
      | '-' :: _ =>
        let (n, rest) := takeHyphens bound (advance f cs)
        (n + 1, rest)
      | _ => (0, cs)

/-- The operator at the start of the text. -/
def classOp? : List Char → Option ClassOp
  | '&' :: '&' :: _ => some .inter
  | '-' :: '-' :: _ => some .difference
  | '~' :: '~' :: _ => some .symmDiff
  | _ => none

mutual

/-- A class; the text starts after its opening bracket. -/
def readClass? (f : Flags) : Nat → List Char → Option (ClassPart × List Char)
  | 0, _ => none
  | bound + 1, cs => do
    let (negated, items, rest) ← openClass? f cs
    let (body, rest) ← readItems? f bound none items rest
    let s ← f.finishSet? negated body.set
    some (⟨s, body.depth + 1⟩, rest)

/-- The items of a class up to its closing bracket, after the operator that waits for its right
side and the items read so far. -/
def readItems? (f : Flags) :
    Nat → Option (ClassOp × ClassPart) → ClassItems → List Char → Option (ClassPart × List Char)
  | 0, _, _, _ => none
  | bound + 1, pending, items, cs => do
    let cs := skipBlanks f cs
    let c :: rest := cs | none
    if c = ']' then some (closeOp f pending items.join, rest)
    else if c = '[' then
      match readAsciiClass? rest with
      | some ((negated, s), rest) =>
        let s ← f.finishSet? negated s
        readItems? f bound pending ⟨items.parts ++ [⟨s, 0⟩]⟩ rest
      | none =>
        let (part, rest) ← readClass? f bound rest
        readItems? f bound pending ⟨items.parts ++ [part]⟩ rest
    else match classOp? cs with
      | some op =>
        readItems? f bound (some (op, closeOp f pending items.join)) ⟨[]⟩ (cs.drop 2)
      | none =>
        let (s, rest) ← readRange? f cs
        readItems? f bound pending ⟨items.parts ++ [⟨s, 0⟩]⟩ rest

end

/-! ## Groups -/

/-- May the character stand in a group name? -/
def isNameChar (first : Bool) (c : Char) : Bool :=
  c == '_' ||
    (if first then alphabetic.contains c
     else c == '.' || c == '[' || c == ']' || alphanumeric.contains c)

/-- A group name and the bracket that ends it. -/
def readName? (cs : List Char) : Option (String × List Char) := do
  let name := cs.takeWhile (· != '>')
  let '>' :: rest := cs.drop name.length | none
  let first :: others := name | none
  if isNameChar true first && others.all (isNameChar false) then
    some (String.ofList name, rest)
  else none

/-- The flags of a group up to the colon or parenthesis that ends them.  A flag or the minus sign
may occur once, and the minus sign not last. -/
def readFlags? (f : Flags) (seen : List Char) :
    List Char → Option (Flags × Bool × List Char)
  | [] => none
  | c :: cs =>
    if c = ':' ∨ c = ')' then
      if seen.head? = some '-' then none else some (f, seen.isEmpty, c :: cs)
    else if seen.contains c then none
    else if c = '-' then readFlags? f (c :: seen) cs
    else do
      let f ← f.set? c (!seen.contains '-')
      readFlags? f (c :: seen) cs

/-- How a group begins. -/
inductive GroupStart where
  /-- A group that captures, or captures under a name. -/
  | capture (name : Option String)
  /-- A group with flags of its own. -/
  | scoped (f : Flags)
  /-- Flags for what follows; not a group. -/
  | flags (f : Flags)

/-- What follows an opening parenthesis. -/
def readGroupStart? (f : Flags) (cs : List Char) : Option (GroupStart × List Char) :=
  match cs with
  | '?' :: '=' :: _ | '?' :: '!' :: _ | '?' :: '<' :: '=' :: _ | '?' :: '<' :: '!' :: _ => none
  | '?' :: 'P' :: '<' :: rest | '?' :: '<' :: rest =>
    (readName? rest).map fun (n, rest) => (.capture (some n), rest)
  | '?' :: rest =>
    match readFlags? f [] rest with
    | some (g, bare, ')' :: rest) => if bare then none else some (.flags g, rest)
    | some (g, _, _ :: rest) => some (.scoped g, rest)
    | _ => none
  | _ => some (.capture none, cs)

/-! ## Patterns -/

/-- Patterns that nest deeper are refused. -/
def nestingLimit : Nat := 250

/-- A pattern while it is read: how deep it nests, and whether it can be repeated. -/
structure Item where
  pattern : Pattern
  depth : Nat
  repeatable : Bool
  deriving Repr

/-- Items one after the other; several nest one level deeper than one. -/
def Item.sequence (items : List Item) : Item where
  pattern := Pattern.sequence (items.map (·.pattern))
  depth :=
    let deepest := items.foldl (fun d p => max d p.depth) 0
    if items.length < 2 then deepest else deepest + 1
  repeatable := true

/-- Alternatives, of which there are several. -/
def Item.choice (items : List Item) : Item where
  pattern := Pattern.choice (items.map (·.pattern))
  depth := items.foldl (fun d p => max d p.depth) 0 + 1
  repeatable := true

/-- A single character, escape or assertion as a pattern. -/
def Atom.toPattern? (f : Flags) : Atom → Option Pattern
  | .literal c byte =>
    if !f.unicode && byte && 0x7F < c.toNat then none
    else if !f.unicode && 0x7F < c.toNat then some (.set (CharSet.singleton c))
    else some (.set (f.foldSet (CharSet.singleton c)))
  | .cls s => some (.set s)
  | .look l => some (.look l)

/-- The characters that a dot matches. -/
def dotSet? (f : Flags) : Option CharSet :=
  if !f.unicode then none
  else if f.dotAll then some CharSet.all
  else if f.crlf then some (CharSet.complement ⟨[(0xA, 0xA), (0xD, 0xD)]⟩)
  else some (CharSet.complement ⟨[(0xA, 0xA)]⟩)

/-- A pattern of one character of the text. -/
def readPrimitive? (f : Flags) (c : Char) (rest : List Char) : Option (Pattern × List Char) :=
  match c with
  | '\\' => do
    let (a, rest) ← readEscape? f rest
    let p ← a.toPattern? f
    some (p, rest)
  | '.' => (dotSet? f).map fun s => (.set s, rest)
  | '^' =>
    some (.look (if f.multiLine then (if f.crlf then .crlfStart else .lineStart) else .textStart),
      rest)
  | '$' =>
    some (.look (if f.multiLine then (if f.crlf then .crlfEnd else .lineEnd) else .textEnd),
      rest)
  | _ => ((Atom.literal c false).toPattern? f).map fun p => (p, rest)

/-- The counts of a repetition in braces, after the opening brace, and whether it is marked as
lazy. -/
def readCounts? (f : Flags) (cs : List Char) :
    Option ((Nat × Option Nat) × Bool × List Char) := do
  let cs := skipBlanks f cs
  let (least, rest) ← readCount? f cs
  let c :: _ := rest | none
  let (most, rest) ←
    if c = ',' then
      let rest := advance f rest
      match rest with
      | [] => none
      | '\x7d' :: _ => some (none, rest)
      | _ => (readCount? f rest).map fun (n, rest) => (some n, rest)
    else some (some least, rest)
  let '\x7d' :: _ := rest | none
  let rest := advance f rest
  if most.any (· < least) then none
  else if rest.head? = some '?' then some ((least, most), true, rest.drop 1)
  else some ((least, most), false, rest)

/-- Repeat the last item. -/
def repeatLast? (f : Flags) (items : List Item) (least : Nat) (most : Option Nat)
    (lazily : Bool) : Option (List Item) :=
  match items with
  | last :: before =>
    if last.repeatable then
      let greedy := lazily == f.swapGreed
      some (⟨last.pattern.repetition least most greedy, last.depth + 1, true⟩ :: before)
    else none
  | [] => none

/-- What a reader of alternatives leaves behind: the item, and the group names given so far. -/
structure Outcome where
  item : Item
  names : List String
  rest : List Char

/-- Alternatives up to the end of the text or a closing parenthesis, which is left in place.
`items` holds the items of the current alternative and `done` the earlier alternatives, both the
last first. -/
def readChoice? :
    Nat → Flags → List String → List Item → List Item → List Char → Option Outcome
  | 0, _, _, _, _, _ => none
  | bound + 1, f, names, done, items, cs =>
    let finish := fun (_ : Unit) =>
      let last := Item.sequence items.reverse
      if done.isEmpty then last else Item.choice ((last :: done).reverse)
    match skipBlanks f cs with
    | [] => some ⟨finish (), names, []⟩
    | c :: rest =>
      match c with
      | ')' => some ⟨finish (), names, c :: rest⟩
      | '|' => readChoice? bound f names (Item.sequence items.reverse :: done) [] rest
      | '(' => do
        let (start, inner) ← readGroupStart? f (skipBlanks f rest)
        match start with
        | .flags g =>
          readChoice? bound g names done (⟨.empty, 0, false⟩ :: items) inner
        | .scoped g => readGroup? bound f g id names done items inner
        | .capture none => readGroup? bound f f .capture names done items inner
        | .capture (some n) =>
          if names.contains n then none
          else readGroup? bound f f .capture (n :: names) done items inner
      | '[' => do
        let (part, rest) ← readClass? f (2 * rest.length + 2) rest
        readChoice? bound f names done (⟨.set part.set, part.depth, true⟩ :: items) rest
      | '?' => do
        let lazily := rest.head? = some '?'
        let items ← repeatLast? f items 0 (some 1) lazily
        readChoice? bound f names done items (if lazily then rest.drop 1 else rest)
      | '*' => do
        let lazily := rest.head? = some '?'
        let items ← repeatLast? f items 0 none lazily
        readChoice? bound f names done items (if lazily then rest.drop 1 else rest)
      | '+' => do
        let lazily := rest.head? = some '?'
        let items ← repeatLast? f items 1 none lazily
        readChoice? bound f names done items (if lazily then rest.drop 1 else rest)
      | '\x7b' => do
        let ((least, most), lazily, rest) ← readCounts? f rest
        let items ← repeatLast? f items least most lazily
        readChoice? bound f names done items rest
      | _ => do
        let (p, rest) ← readPrimitive? f c rest
        readChoice? bound f names done (⟨p, 0, true⟩ :: items) rest
where
  /-- The inside of a group with its closing parenthesis, then the rest of the alternative
  around it.  Flags set inside end with the group. -/
  readGroup? (bound : Nat) (outer inner : Flags) (wrap : Pattern → Pattern)
      (names : List String) (done items : List Item) (cs : List Char) : Option Outcome :=
    match bound with
    | 0 => none
    | bound + 1 => do
      let r ← readChoice? bound inner names [] [] cs
      let ')' :: rest := r.rest | none
      let group : Item := ⟨wrap r.item.pattern, r.item.depth + 1, true⟩
      readChoice? bound outer r.names done (group :: items) rest

/-- The pattern that a text denotes. -/
def ofText? (text : List Char) : Option Pattern := do
  let r ← readChoice? (2 * text.length + 2) Flags.default [] [] [] text
  if r.rest.isEmpty && r.item.depth ≤ nestingLimit then some r.item.pattern else none

end ChatArchive.Pattern
