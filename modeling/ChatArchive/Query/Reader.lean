import ChatArchive.Text.Lowercase
import ChatArchive.Query.Basic

/-!
# Reading queries

Every text is a query.  Exclusion tokens are cut out of it first: `not:` with a list of terms that
must not occur.  What remains selects the mode:

* nothing, where the text was blank, or everything, where only tokens were given;
* `id:` or `ids:` with a list of identifiers;
* a pattern between slashes;
* at least two terms with `|` between them;
* otherwise the remaining text as one term.

A form that is incomplete, such as a pattern that is refused, is read as the next one below it.
-/

namespace ChatArchive.Query

open ChatArchive.Text
open ChatArchive.Pattern (Matcher)

/-! ## Exclusion tokens

A token is `not:`, in either case of its letters, with a list behind it that ends before the next
blank and is not empty.  It counts at the start of the text and right behind a blank, and that
blank is cut out with it. -/

/-- The list of a token at the front of a text, and what follows the token. -/
def listAhead? (cs : List Char) : Option (List Char × List Char) :=
  match cs with
  | n :: o :: t :: ':' :: rest =>
    if (n == 'n' || n == 'N') && (o == 'o' || o == 'O') && (t == 't' || t == 'T') then
      let list := rest.takeWhile fun c => !isBlank c
      if list.isEmpty then none else some (list, rest.dropWhile fun c => !isBlank c)
    else none
  | _ => none

/-- A token in a text. -/
structure Token where
  /-- What stands between the token before this one, or the start, and this one. -/
  before : List Char
  list : List Char
  deriving Repr, DecidableEq

/-- The first token of a text, and what follows it.  `atStart` says whether nothing stands before
the text. -/
def firstToken? (atStart : Bool) : List Char → Option (Token × List Char)
  | [] => none
  | c :: cs =>
    match (if atStart then listAhead? (c :: cs) else none) <|>
      (if isBlank c then listAhead? cs else none) with
    | some (list, rest) => some (⟨[], list⟩, rest)
    | none => (firstToken? false cs).map fun (t, rest) => ({ t with before := c :: t.before }, rest)

/-- A list takes up characters. -/
theorem listAhead?_length {cs list rest : List Char} (h : listAhead? cs = some (list, rest)) :
    rest.length < cs.length := by
  unfold listAhead? at h
  split at h
  · next n o t tail =>
    simp only [Option.ite_none_right_eq_some, Option.ite_none_left_eq_some] at h
    obtain ⟨-, -, h⟩ := h
    have hrest := (Prod.mk.inj (Option.some.inj h)).2
    have hle := (List.dropWhile_sublist (fun c => !isBlank c) (l := tail)).length_le
    rw [hrest] at hle
    simp only [List.length_cons]
    omega
  · cases h

/-- So does a token, and reading the rest comes to an end. -/
theorem firstToken?_length {atStart : Bool} {cs rest : List Char} {t : Token}
    (h : firstToken? atStart cs = some (t, rest)) : rest.length < cs.length := by
  induction cs generalizing atStart t with
  | nil => cases h
  | cons c cs ih =>
    rw [firstToken?] at h
    split at h
    · next list tail hahead =>
      obtain ⟨-, rfl⟩ := Prod.mk.inj (Option.some.inj h)
      simp only [Option.orElse_eq_orElse, Option.orElse_eq_or, Option.or_eq_some_iff,
        Option.ite_none_right_eq_some] at hahead
      obtain ⟨-, hlist⟩ | ⟨-, -, hlist⟩ := hahead
      · exact listAhead?_length hlist
      · exact Nat.lt_succ_of_lt (listAhead?_length hlist)
    · obtain ⟨⟨t', tail⟩, hfirst, heq⟩ := Option.map_eq_some_iff.mp h
      obtain ⟨-, rfl⟩ := Prod.mk.inj heq
      exact Nat.lt_succ_of_lt (ih hfirst)

/-- The tokens of a text in order, and what follows the last one. -/
def tokens (atStart : Bool) (cs : List Char) : List Token × List Char :=
  match _h : firstToken? atStart cs with
  | none => ([], cs)
  | some (t, rest) =>
    let (ts, tail) := tokens false rest
    (t :: ts, tail)
termination_by cs.length
decreasing_by exact firstToken?_length _h

/-- The terms that a token lists, in lowercase. -/
def Token.terms (t : Token) : List String :=
  ((splitBy (· == ',') t.list).map fun piece => String.ofList (lowercase (trim piece))).filter
    fun term => term != ""

/-! ## What remains -/

/-- Put a piece behind the text that was kept, and one space behind them. -/
def keepPiece (kept piece : List Char) : List Char :=
  let kept := kept ++ trimEnd piece
  if kept.isEmpty || kept.getLast? == some ' ' then kept else kept ++ [' ']

/-- The text without its tokens and the blanks around them, with one space where some were cut out
between other text. -/
def withoutTokens (ts : List Token) (tail : List Char) : List Char :=
  let kept := match ts with
    | [] => []
    | t :: ts =>
      ts.foldl (fun kept t => keepPiece kept (trimStart t.before)) (keepPiece [] t.before)
  trimEnd (kept ++ trimStart tail)

/-- The text without its tokens, and the exclusions that these list, each once. -/
def extractExclusions (cs : List Char) : List Char × List String :=
  let (ts, tail) := tokens true cs
  let exclusions := dedup (ts.flatMap Token.terms)
  (if exclusions.isEmpty && ts.isEmpty then cs else withoutTokens ts tail, exclusions)

/-! ## Modes -/

/-- The list after `id:` or `ids:`; the letters may be of either case, and the last may be a long
s. -/
def idList? (cs : List Char) : Option (List Char) :=
  match cs with
  | i :: d :: rest =>
    if (i == 'i' || i == 'I') && (d == 'd' || d == 'D') then
      match rest with
      | ':' :: c :: list => some (c :: list)
      | s :: ':' :: c :: list =>
        if s == 's' || s == 'S' || s == 'ſ' then some (c :: list) else none
      | _ => none
    else none
  | _ => none

/-- The identifiers of a list, which commas and blanks separate. -/
def splitIds (list : List Char) : List String :=
  (fields (fun c => c == ',' || isBlank c) list).map String.ofList

/-- The text between slashes. -/
def slashed? (cs : List Char) : Option (List Char) :=
  match cs with
  | '/' :: c :: rest =>
    if rest.getLast? = some '/' then some (c :: rest.dropLast) else none
  | _ => none

/-- The terms between bars, in lowercase, without those that are blank. -/
def alternatives (cs : List Char) : List String :=
  ((splitBy (· == '|') cs).map fun piece => String.ofList (lowercase (trim piece))).filter
    fun term => term != ""

/-- The mode that some identifiers select. -/
def idMode? (cs : List Char) : Option Mode := do
  let ids := splitIds (← idList? cs)
  if ids.isEmpty then none else some (.ids ids)

/-- The mode that a pattern selects. -/
def patternMode? (cs : List Char) : Option Mode := do
  let m ← Matcher.ofText? (String.ofList (← slashed? cs))
  some (.pattern m)

/-- The mode that several terms select. -/
def anyMode? (cs : List Char) : Option Mode :=
  let terms := alternatives cs
  if terms.length ≥ 2 then some (.any terms) else none

/-- The mode of a text that is not blank and has no tokens. -/
def modeOf (cs : List Char) : Mode :=
  (idMode? cs <|> patternMode? cs <|> anyMode? cs).getD
    (.contains (String.ofList (lowercase cs)))

/-- The query that a text denotes. -/
def ofText (text : String) : Query :=
  let cs := trim text.toList
  if cs.isEmpty then empty
  else
    let (rest, exclusions) := extractExclusions cs
    let rest := trim rest
    ⟨if rest.isEmpty then .all else modeOf rest, exclusions⟩

end ChatArchive.Query
