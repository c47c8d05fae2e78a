import ChatArchive.Toml.Reader

/-!
# Tables of documents

Statements are put together to a table.  A key is given a value once, and a table a header once.
What is written in brackets or braces is complete, and a table with a header takes no values by
dotted keys from elsewhere.
-/

namespace ChatArchive.Toml

namespace Members

/-- The value of a key. -/
def get? (ms : Members) (key : String) : Option Value :=
  (List.find? (fun m => m.1 == key) ms).map (·.2)

/-- Give a key that has a value another one. -/
def replace (ms : Members) (key : String) (v : Value) : Members :=
  List.map (fun m => if m.1 == key then (key, v) else m) ms

/-- Put a value under a key, in place of one that it has. -/
def put (ms : Members) (key : String) (v : Value) : Members :=
  if (ms.get? key).isSome then ms.replace key v else ms ++ [(key, v)]

/-- Give a value to a dotted key. -/
def assign (ms : Members) (v : Value) : List String → Option Members
  | [] => none
  | [key] => if (ms.get? key).isSome then none else some (ms ++ [(key, v)])
  | key :: path =>
    match ms.get? key with
    | none => (assign [] v path).map fun inner => ms ++ [(key, .table .dotted inner)]
    | some (.table .implied inner) =>
      (assign inner v path).map fun inner => ms.replace key (.table .implied inner)
    | some (.table .dotted inner) =>
      (assign inner v path).map fun inner => ms.replace key (.table .dotted inner)
    | some _ => none

/-- Change the members of the table that a path of headers leads to.  Of tables that share a
header the latest is meant; tables on the way that are not there are made. -/
def within (f : Members → Option Members) (ms : Members) : List String → Option Members
  | [] => f ms
  | key :: path =>
    match ms.get? key with
    | none => (within f [] path).map fun inner => ms.put key (.table .implied inner)
    | some (.table .braces _) => none
    | some (.table origin inner) =>
      (within f inner path).map fun inner => ms.put key (.table origin inner)
    | some (.tables (.table origin inner :: others)) =>
      (within f inner path).map fun inner => ms.put key (.tables (.table origin inner :: others))
    | some _ => none

/-- Make a table for a header. -/
def openTable (key : String) (ms : Members) : Option Members :=
  match ms.get? key with
  | none => some (ms.put key (.table .header []))
  | some (.table .implied inner) => some (ms.put key (.table .header inner))
  | some _ => none

/-- Make one more table for a header that is shared. -/
def openElement (key : String) (ms : Members) : Option Members :=
  match ms.get? key with
  | none => some (ms.put key (.tables [.table .header []]))
  | some (.tables others) => some (ms.put key (.tables (.table .header [] :: others)))
  | some _ => none

end Members

/-! ## Values -/

mutual

/-- The value that is written, if the keys in its braces are given values once each. -/
def Written.value? : Written → Option Value
  | .scalar s => some (.scalar s)
  | .array items => (Written.values? items).map .array
  | .braces members => (Written.members? [] members).map (.table .braces)

/-- The values of some items, if all of them have one. -/
def Written.values? : List Written → Option (List Value)
  | [] => some []
  | w :: ws => do
    let v ← w.value?
    let vs ← Written.values? ws
    some (v :: vs)

/-- Members are assigned one after the other, to what was there before. -/
def Written.members? (ms : Members) : List (List String × Written) → Option Members
  | [] => some ms
  | (path, w) :: rest => do
    let v ← w.value?
    let ms ← ms.assign v path
    Written.members? ms rest

end

/-! ## Documents -/

/-- A document as far as it has been put together: its table, and the header of the table that
values go to. -/
structure Assembly where
  members : Members
  current : List String

/-- Take a statement. -/
def Assembly.take (a : Assembly) : Statement Written → Option Assembly
  | .table path =>
    (a.members.within (Members.openTable (path.getLastD "")) path.dropLast).map (⟨·, path⟩)
  | .element path =>
    (a.members.within (Members.openElement (path.getLastD "")) path.dropLast).map (⟨·, path⟩)
  | .assign path w => do
    let v ← w.value?
    let members ← a.members.within (·.assign v path) a.current
    some { a with members := members }

/-- The table of a document. -/
def membersOf (statements : List (Statement Written)) : Option Members :=
  (statements.foldlM Assembly.take ⟨[], []⟩).map (·.members)

/-- The table of a text as JSON. -/
def read? (text : String) : Option Json := do
  let statements ← statementsOf text.toList
  let members ← membersOf statements
  some (Value.table .header members).toJson

end ChatArchive.Toml
