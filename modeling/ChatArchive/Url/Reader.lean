import ChatArchive.Url.Basic
import ChatArchive.Url.Host

/-!
# Reading addresses

An address is read on its own or against a base.  Then parts that are missing are those of the
base, and a path without a slash in front goes on from the folder of the base's path.
-/

namespace ChatArchive.Url

/-! ## Pieces of a text -/

/-- A text cut at its first `#` and, before that, its first `?`. -/
structure Reference where
  body : List Char
  query : Option (List Char)
  fragment : Option (List Char)

/-- What stands before a mark, and what stands behind it if it occurs. -/
def cutAt (mark : Char) (cs : List Char) : List Char × Option (List Char) :=
  match cs.span (· != mark) with
  | (before, _ :: after) => (before, some after)
  | (before, []) => (before, none)

/-- Is a character passed over at both ends of an address? -/
def isOuter (c : Char) : Bool := c.toNat ≤ 0x20

/-- A text without controls and spaces around it and line breaks and tabs in it. -/
def clean (cs : List Char) : List Char :=
  let trimmed := ((cs.dropWhile isOuter).reverse.dropWhile isOuter).reverse
  trimmed.filter fun c => c != '\t' && c != '\n' && c != '\r'

/-- Cut a text at its first hash mark, and then at its first question mark. -/
def Reference.ofText (cs : List Char) : Reference :=
  let (front, fragment) := cutAt '#' (clean cs)
  let (body, query) := cutAt '?' front
  ⟨body, query, fragment⟩

/-- May a character stand in a scheme? -/
def isSchemeChar (c : Char) : Bool := c.isAlphanum || c == '+' || c == '-' || c == '.'

/-- The scheme in front of a text, in lower case, and what follows the colon. -/
def scheme? (cs : List Char) : Option (String × List Char) :=
  match cutAt ':' cs with
  | (name, some rest) =>
    if name.head?.any Char.isAlpha && name.all isSchemeChar then
      some (String.ofList (name.map Char.toLower), rest)
    else none
  | (_, none) => none

/-- Does a character separate segments?  In addresses of the web a backslash does so too. -/
def isSlash (ofWeb : Bool) (c : Char) : Bool := c == '/' || (ofWeb && c == '\\')

/-! ## Paths -/

/-- Is a segment the name of a drive: a letter, and a colon or a bar? -/
def isDrive (segment : List Char) : Bool :=
  match segment with
  | [c, m] => c.isAlpha && (m == ':' || m == '|')
  | _ => false

/-- A segment with its escaped dots resolved. -/
def dotsOf : List Char → List Char
  | '%' :: '2' :: 'e' :: cs => '.' :: dotsOf cs
  | '%' :: '2' :: 'E' :: cs => '.' :: dotsOf cs
  | c :: cs => c :: dotsOf cs
  | [] => []

/-- The folder above.  A drive has none. -/
def parent (ss : List String) : List String :=
  if ss.getLast?.any fun s => isDrive s.toList then ss else ss.dropLast

/-- A segment in writing; the name of a drive on which files are has a colon. -/
def segmentText (scheme : String) (segment : List Char) : String :=
  match segment with
  | [c, '|'] => if scheme = fileScheme ∧ c.isAlpha then String.ofList [c, ':']
    else escapeText escapedInPath segment
  | _ => escapeText escapedInPath segment

/-- Go from a folder along segments.  Two dots go up and one dot stays; where they are last, the
path ends in a slash. -/
def follow (scheme : String) (folder : List String) : List (List Char) → List String
  | [] => folder
  | segment :: rest =>
    let dots := dotsOf segment
    let next :=
      if dots = ['.', '.'] then parent folder
      else if dots = ['.'] then folder
      else folder ++ [segmentText scheme segment]
    if rest.isEmpty then
      if dots = ['.', '.'] || dots = ['.'] then next ++ [""] else next
    else follow scheme next rest

/-- The path of files begins with no empty segment but the only one. -/
def settle (scheme : String) (ss : List String) : List String :=
  if scheme = fileScheme then
    match ss.dropWhile (· == "") with
    | [] => [""]
    | kept => kept
  else ss

/-- The path along the segments of a text, from a folder. -/
def pathFrom (scheme : String) (folder : List String) (cs : List Char) : Path :=
  .segments (settle scheme
    (follow scheme folder (Text.splitBy (isSlash (isWebScheme scheme)) cs)))

/-- The path behind a host. -/
def pathAfterHost (scheme : String) (cs : List Char) : Path :=
  match cs with
  | [] => if isWebScheme scheme then .segments [""] else .segments []
  | c :: rest =>
    if isSlash (isWebScheme scheme) c then pathFrom scheme [] rest else pathFrom scheme [] cs

/-! ## Hosts -/

/-- The user in front of a host: a name, and a password behind a colon. -/
def readUser (cs : List Char) : String × String :=
  let (name, password) := cutAt ':' cs
  (escapeText escapedInUserinfo name, escapeText escapedInUserinfo (password.getD []))

/-- The socket behind a host: a number of at most sixteen bits, left out if it is the usual one of
the scheme. -/
def readSocket? (scheme : String) (cs : List Char) : Option (Option Nat) :=
  if cs.all Char.isDigit then
    let n := cs.foldl (fun n d => n * 10 + (d.toNat - 0x30)) 0
    if 65535 < n then none
    else if cs.isEmpty || usualSocket? scheme = some n then some none
    else some (some n)
  else none

/-- A host and what stands behind the colon that follows it.  Colons in brackets belong to the
host. -/
def cutSocket (inBrackets : Bool) : List Char → List Char × Option (List Char)
  | [] => ([], none)
  | c :: cs =>
    if c = ':' ∧ !inBrackets then ([], some cs)
    else
      let inside := c = '[' || (inBrackets && c != ']')
      let (host, socket) := cutSocket inside cs
      (c :: host, socket)

/-- The user is what stands before the last `@`. -/
def cutUser (cs : List Char) : Option (List Char) × List Char :=
  match cs.reverse.span (· != '@') with
  | (host, _ :: user) => (some user.reverse, host.reverse)
  | (_, []) => (none, cs)

/-- An authority.  A host of the web is not empty, nor is one with a user or a socket. -/
def readAuthority? (scheme : String) (cs : List Char) : Option Authority := do
  let (userPart, hostPart) := cutUser cs
  let (hostText, socketText) := cutSocket false hostPart
  let host ← if isWebScheme scheme then webHost? hostText else otherHost? hostText
  if host.isEmpty && (userPart.isSome || socketText.isSome) then none
  let socket ← readSocket? scheme (socketText.getD [])
  let (user, password) := readUser (userPart.getD [])
  some ⟨user, password, String.ofList host, socket⟩

/-! ## Addresses -/

/-- Put a query and a fragment behind a path. -/
def finish (scheme : String) (authority : Option Authority) (path : Path) (r : Reference) : Url where
  scheme := scheme
  authority := authority
  path := path
  query := r.query.map (escapeText (escapedInQuery (isWebScheme scheme)))
  fragment := r.fragment.map (escapeText escapedInFragment)

/-- The text behind two slashes: an authority and a path. -/
def readHosted? (scheme : String) (cs : List Char) (r : Reference) : Option Url := do
  let (front, rest) := cs.span fun c => !isSlash (isWebScheme scheme) c
  let authority ← readAuthority? scheme front
  some (finish scheme (some authority) (pathAfterHost scheme rest) r)

/-- The segments of a path. -/
def Path.folders : Path → List String
  | segments ss => ss
  | plain _ => []

/-- The number of slashes and backslashes in front. -/
def slashCount (cs : List Char) : Nat := (cs.takeWhile (isSlash true)).length

/-- A text without a scheme against a base. -/
def readRelative? (base : Url) (body : List Char) (r : Reference) : Option Url :=
  match body with
  | [] =>
    let u := finish base.scheme base.authority base.path r
    some (if r.query.isSome then u else { u with query := base.query })
  | c :: rest =>
    if isSlash true c then
      if 2 ≤ slashCount body then
        if ['/', '/'].isPrefixOf body then readHosted? base.scheme (body.drop 2) r
        else readHosted? base.scheme (body.drop (slashCount body)) r
      else some (finish base.scheme base.authority (pathFrom base.scheme [] rest) r)
    else
      some (finish base.scheme base.authority
        (pathFrom base.scheme base.path.folders.dropLast body) r)

/-- An authority that is a host only. -/
def hostOnly (host : String) : Authority := ⟨"", "", host, none⟩

/-- The host of a file, or none: the local one has no name. -/
def fileHost? (cs : List Char) : Option String :=
  if cs.isEmpty then some ""
  else (webHost? cs).map fun host =>
    let name := String.ofList host
    if name = "localhost" then "" else name

/-- The address of a file, against a base that is one too if there is a base. -/
def readFile? (base : Option Url) (body : List Char) (r : Reference) : Option Url :=
  let at_ (host : String) (folder : List String) (cs : List Char) : Url :=
    finish fileScheme (some (hostOnly host)) (pathFrom fileScheme folder cs) r
  let baseHost := ((base.bind (·.authority)).map (·.host)).getD ""
  if 2 ≤ slashCount body then
    let (hostText, rest) := (body.drop 2).span fun c => !isSlash true c
    if isDrive hostText then some (at_ "" [] (body.drop 2))
    else (fileHost? hostText).map fun host => at_ host [] (rest.drop 1)
  else if slashCount body = 1 then
    match base.map (·.path.folders) with
    | some (drive :: _) =>
      if isDrive drive.toList then some (at_ "" [drive] (body.drop 1))
      else some (at_ baseHost [] (body.drop 1))
    | _ => some (at_ baseHost [] (body.drop 1))
  else
    match base with
    | some b => readRelative? b body r
    | none => some (at_ "" [] body)

/-- The text behind a scheme. -/
def readAbsolute? (base : Option Url) (scheme : String) (cs : List Char) (r : Reference) :
    Option Url :=
  let alike := base.filter fun b => b.scheme == scheme
  if scheme = fileScheme then readFile? alike cs r
  else if isWebScheme scheme then
    match alike with
    | some b =>
      if slashCount cs < 2 then readRelative? b cs r
      else readHosted? scheme (cs.drop (slashCount cs)) r
    | none => readHosted? scheme (cs.drop (slashCount cs)) r
  else
    match cs with
    | '/' :: '/' :: rest => readHosted? scheme rest r
    | '/' :: rest => some (finish scheme none (pathFrom scheme [] rest) r)
    | _ => some (finish scheme none (.plain (escapeText escapedAnywhere cs)) r)

/-- Is it only the fragment that a reference gives? -/
def Reference.isFragment (r : Reference) : Bool :=
  r.body.isEmpty && r.query.isNone && r.fragment.isSome

/-- Read an address against a base, if there is one. -/
def resolve? (base : Option Url) (text : String) : Option Url :=
  let r := Reference.ofText text.toList
  match scheme? r.body, base with
  | some (scheme, rest), _ => readAbsolute? base scheme rest r
  | none, none => none
  | none, some b =>
    match b.path with
    | .plain _ => if r.isFragment then readRelative? b [] r else none
    | .segments _ =>
      if b.scheme = fileScheme then readFile? (some b) r.body r else readRelative? b r.body r

/-- Read an address. -/
def ofText? (text : String) : Option Url := resolve? none text

/-- Read an address against this one. -/
def join? (u : Url) (text : String) : Option Url := resolve? (some u) text

end ChatArchive.Url
