import ChatArchive.Decimal.Shortest

/-!
# JSON values

Values without a fixed shape.  Numbers are integers of 64 bits or floating-point numbers.  The
members of an object are in increasing order of their names and no name occurs twice, as
`Json.ofMembers` makes them.
-/

namespace ChatArchive

/-- A number: an integer between `-2 ^ 63` and `2 ^ 64 - 1`, or a finite floating-point number. -/
inductive Json.Number where
  | int (n : Int)
  | float (x : Float)

/-- A JSON value. -/
inductive Json where
  | null
  | bool (b : Bool)
  | num (n : Json.Number)
  | str (s : String)
  | arr (items : List Json)
  | obj (members : List (String × Json))

namespace Json

instance : Inhabited Json := ⟨null⟩

/-- A natural number as a value. -/
def ofNat (n : Nat) : Json := num (.int n)

/-- A value, or null. -/
def ofOption {α : Type} (f : α → Json) : Option α → Json
  | some a => f a
  | none => null

/-- A list of strings as a value. -/
def ofStrings (ss : List String) : Json := arr (ss.map str)

/-- Put a member into a sorted list of members, in place of one with the same name. -/
def insertMember (name : String) (v : Json) : List (String × Json) → List (String × Json)
  | [] => [(name, v)]
  | (k, w) :: rest =>
    if name < k then (name, v) :: (k, w) :: rest
    else if name = k then (name, v) :: rest
    else (k, w) :: insertMember name v rest

/-- The object of some members; of several with one name the last counts. -/
def ofMembers (ms : List (String × Json)) : Json :=
  obj (ms.foldl (fun acc (k, v) => insertMember k v acc) [])

/-- The member of an object. -/
def field? (j : Json) (name : String) : Option Json :=
  match j with
  | obj ms => (ms.find? fun m => m.1 == name).map (·.2)
  | _ => none

end Json

end ChatArchive
