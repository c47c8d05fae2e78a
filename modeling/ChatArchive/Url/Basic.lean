import ChatArchive.Text.Basic

/-!
# Addresses of pages

An address has a scheme, a host, a path, a query and a fragment.  Every part is kept in the form in
which it is written, so that writing an address is putting its parts together.
-/

namespace ChatArchive

/-- Where a page is served, and who asks for it. -/
structure Url.Authority where
  user : String
  password : String
  host : String
  /-- The number of the socket, unless it is the usual one of the scheme. -/
  socket : Option Nat
  deriving Repr, DecidableEq

/-- The path of an address. -/
inductive Url.Path where
  /-- Segments, each with a slash in front. -/
  | segments (ss : List String)
  /-- Text that is no path of segments, as the name of a mail box. -/
  | plain (text : String)
  deriving Repr, DecidableEq

/-- The address of a page. -/
structure Url where
  scheme : String
  authority : Option Url.Authority
  path : Url.Path
  query : Option String
  fragment : Option String
  deriving Repr, DecidableEq

namespace Url

/-! ## Schemes -/

/-- The scheme of addresses of local files. -/
def fileScheme : String := "file"

/-- The usual socket of a scheme of the web. -/
def usualSocket? (scheme : String) : Option Nat :=
  if scheme = "http" || scheme = "ws" then some 80
  else if scheme = "https" || scheme = "wss" then some 443
  else if scheme = "ftp" then some 21
  else none

/-- Is a scheme one of the web?  Its addresses have a host and a path, and a backslash is a
slash. -/
def isWebScheme (scheme : String) : Bool := (usualSocket? scheme).isSome || scheme == fileScheme

/-! ## Writing -/

/-- The user in front of the host. -/
def Authority.userText (a : Authority) : String :=
  if a.password ≠ "" then a.user ++ ":" ++ a.password ++ "@"
  else if a.user ≠ "" then a.user ++ "@"
  else ""

/-- An authority as it stands in an address. -/
def Authority.toText (a : Authority) : String :=
  a.userText ++ a.host ++ (match a.socket with | some p => ":" ++ toString p | none => "")

/-- A path in writing. -/
def Path.toText : Path → String
  | segments ss => String.join (ss.map ("/" ++ ·))
  | plain text => text

/-- The path of an address. -/
def pathText (u : Url) : String := u.path.toText

/-- What stands between the scheme and the path.  Without a host, a path that would begin with two
slashes has a dot put in front, so that it is not read as one. -/
def authorityText (u : Url) : String :=
  match u.authority, u.path with
  | some a, _ => "//" ++ a.toText
  | none, .segments ("" :: _ :: _) => "/."
  | none, _ => ""

/-- A part behind its mark, if there is one. -/
def markedText (mark : String) : Option String → String
  | some text => mark ++ text
  | none => ""

/-- The text of an address. -/
def toText (u : Url) : String :=
  u.scheme ++ ":" ++ u.authorityText ++ u.pathText ++ markedText "?" u.query ++
    markedText "#" u.fragment

end Url

end ChatArchive
