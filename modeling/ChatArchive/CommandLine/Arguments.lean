import ChatArchive.Files.Path
import ChatArchive.Word

/-!
# Arguments

The words of a command line as a request.  Options are given by their full names, each at most once
for the program and once for the command; their values follow as the next word or behind an equals
sign.  After two hyphens no more options come.
-/

namespace ChatArchive.CommandLine

open Files (Path)

/-- A search of the cached conversations. -/
structure Search where
  query : String
  after : Option String
  before : Option String
  searchContent : Bool
  limit : Nat
  deriving Repr, DecidableEq

/-- What the program is to do. -/
inductive Command where
  | search (s : Search)
  | stats
  | exportMetadata (out : Path) (query : Option String)
  | settings
  deriving Repr, DecidableEq

/-- What a command line asks for. -/
inductive Request where
  | help
  | version
  /-- A command or none, with the file of the settings and the folder of the cache if they are
  named. -/
  | perform (settings cache : Option Path) (command : Option Command)
  deriving Repr, DecidableEq

/-! ## Options -/

/-- How an option is used. -/
inductive Usage where
  | takesText
  /-- The value is a path, which is not empty. -/
  | takesPath
  | takesNumber
  /-- There is no value. -/
  | isSwitch
  /-- Everything else on the line is passed over. -/
  | showsHelp
  | showsVersion
  deriving Repr, DecidableEq

/-- The options that the program has everywhere. -/
def globalOptions : List (String × Usage) :=
  [("config", .takesPath), ("cache-dir", .takesPath), ("help", .showsHelp)]

/-- The names of the commands. -/
inductive CommandName where
  | search
  | stats
  | exportMetadata
  | config
  deriving Repr, DecidableEq

/-- The command that a word names. -/
def CommandName.ofWord? (word : String) : Option CommandName :=
  if word = "search" then some search
  else if word = "stats" then some stats
  else if word = "export-metadata" then some exportMetadata
  else if word = "config" then some config
  else none

/-- The options that a command has besides the global ones. -/
def CommandName.options : CommandName → List (String × Usage)
  | search =>
    [("after", .takesText), ("before", .takesText), ("content", .isSwitch),
      ("limit", .takesNumber)]
  | stats | config | exportMetadata => []

/-- What has been read of the words for the program or for a command. -/
structure Reading where
  /-- The options with their values, the latest first. -/
  options : List (String × String)
  /-- The words that are no options, the latest first. -/
  words : List String

/-- How reading ended. -/
inductive Stop where
  /-- The words are used up. -/
  | done (r : Reading)
  /-- A word came that is the name of a command. -/
  | command (r : Reading) (name : CommandName) (rest : List String)
  | help
  | version
  /-- The words cannot be understood. -/
  | refused

/-- The value of an option. -/
def Reading.value? (r : Reading) (name : String) : Option String :=
  (r.options.find? fun o => o.1 == name).map (·.2)

/-- The number that a word is, of at most 64 bits; a plus may stand in front. -/
def number? (word : String) : Option Nat :=
  let ds := match word.toList with
    | '+' :: ds => ds
    | ds => ds
  if ds.isEmpty || !ds.all Char.isDigit then none
  else
    let n := ds.foldl (fun n d => n * 10 + (d.toNat - 0x30)) 0
    if n < Word.size 64 then some n else none

/-- Is a text a value for an option? -/
def Usage.accepts (u : Usage) (value : String) : Bool :=
  match u with
  | takesText => true
  | takesPath => value != ""
  | takesNumber => (number? value).isSome
  | isSwitch | showsHelp | showsVersion => false

/-- Does a word look like an option?  A single hyphen does not. -/
def isOption (word : String) : Bool :=
  match word.toList with
  | '-' :: _ :: _ => true
  | _ => false

/-- The name of an option by its full name or its letter, and a value behind an equals sign. -/
def optionOf (word : String) : Option (String × Option String) :=
  match word.toList with
  | '-' :: '-' :: rest =>
    match rest.span (· != '=') with
    | (name, _ :: value) => some (String.ofList name, some (String.ofList value))
    | (name, []) => some (String.ofList name, none)
  | '-' :: 'h' :: _ => some ("help", none)
  | '-' :: 'V' :: _ => some ("version", none)
  | _ => none

/-- Take an option with its value. -/
def Reading.take? (r : Reading) (usage : Usage) (name value : String) : Option Reading :=
  if (r.value? name).isSome || !usage.accepts value then none
  else some { r with options := (name, value) :: r.options }

/-- Take a switch. -/
def Reading.switch? (r : Reading) (name : String) : Option Reading :=
  if (r.value? name).isSome then none else some { r with options := (name, "") :: r.options }

/-- Take the words that are left when no more options come. -/
def Reading.takeWords (r : Reading) (words : List String) : Reading :=
  { r with words := words.reverse ++ r.words }

/-- What comes of an option. -/
inductive Taken where
  /-- It is taken, without the word after it. -/
  | alone (r : Reading)
  /-- It is taken with the word after it. -/
  | withNext (r : Reading)
  | stop (s : Stop)

/-- An option is taken, or the words cannot be understood. -/
def Taken.orRefused (taken : Reading → Taken) : Option Reading → Taken
  | some r => taken r
  | none => .stop .refused

/-- Take the option that a word is, of those that are known here; `next?` is the word after it. -/
def Reading.takeOption (r : Reading) (options : List (String × Usage)) (word : String)
    (next? : Option String) : Taken :=
  match optionOf word with
  | none => .stop .refused
  | some (name, given) =>
    match options.lookup name, given with
    | none, _ => .stop .refused
    | some .showsHelp, none => .stop .help
    | some .showsVersion, none => .stop .version
    | some .isSwitch, none => .orRefused .alone (r.switch? name)
    | some usage, some value => .orRefused .alone (r.take? usage name value)
    | some usage, none =>
      .orRefused .withNext ((next?.filter fun v => !isOption v).bind (r.take? usage name))

/-- May these words follow the word that asks for help?  It may be about a command. -/
def isTopic : List String → Bool
  | [] => true
  | [word] => word = "help" || (CommandName.ofWord? word).isSome
  | _ => false

/-- Read words, with the options that are known here.  If commands are, the first word that is no
option names one. -/
def readWords (options : List (String × Usage)) (withCommands : Bool) (r : Reading) :
    List String → Stop
  | [] => .done r
  | word :: rest =>
    if word = "--" then .done (r.takeWords rest)
    else if isOption word then
      match r.takeOption options word rest.head? with
      | .stop s => s
      | .alone r => readWords options withCommands r rest
      | .withNext r =>
        match rest with
        | [] => .refused
        | _ :: rest => readWords options withCommands r rest
    else if withCommands then
      match CommandName.ofWord? word with
      | some name => .command r name rest
      | none => if word = "help" && isTopic rest then .help else .refused
    else readWords options withCommands { r with words := word :: r.words } rest

/-! ## Requests -/

/-- The command of what was read behind its name. -/
def commandOf (name : CommandName) (r : Reading) : Option Command :=
  match name, r.words.reverse with
  | .search, [query] =>
    some (.search {
      query := query
      after := r.value? "after"
      before := r.value? "before"
      searchContent := (r.value? "content").isSome
      limit := ((r.value? "limit").bind number?).getD 50 })
  | .stats, [] => some .stats
  | .config, [] => some .settings
  | .exportMetadata, [out] => if out = "" then none else some (.exportMetadata out none)
  | .exportMetadata, [out, query] =>
    if out = "" then none else some (.exportMetadata out (some query))
  | _, _ => none

/-- The request for a command.  A global option that is given twice counts where it stands behind
the command's name. -/
def requestOf (outer inner : Reading) (command : Option Command) : Request :=
  .perform ((inner.value? "config").or (outer.value? "config"))
    ((inner.value? "cache-dir").or (outer.value? "cache-dir")) command

/-- The request of a command line, if it can be understood. -/
def request? (words : List String) : Option Request :=
  let empty : Reading := ⟨[], []⟩
  match readWords (globalOptions ++ [("version", .showsVersion)]) true empty words with
  | .help => some .help
  | .version => some .version
  | .refused => none
  | .done r => if r.words.isEmpty then some (requestOf r empty none) else none
  | .command outer name rest =>
    match readWords (globalOptions ++ name.options) false empty rest with
    | .help => some .help
    | .version | .refused | .command _ _ _ => none
    | .done inner => (commandOf name inner).map fun c => requestOf outer inner (some c)

end ChatArchive.CommandLine
