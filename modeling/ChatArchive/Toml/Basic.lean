import ChatArchive.Json.Basic
import ChatArchive.Word

/-!
# TOML values

A document is a table of values.  Of a table it is known how it came about, because that decides
how it may be added to.  Numbers with a fraction and times are kept as they are written.
-/

namespace ChatArchive.Toml

/-- A value that holds no others. -/
inductive Scalar where
  | string (s : String)
  | integer (n : Int)
  | float (text : String)
  | boolean (b : Bool)
  | time (text : String)
  deriving Repr, DecidableEq

/-- How a table came about. -/
inductive Origin where
  /-- It is written in braces, and complete. -/
  | braces
  /-- It has a header of its own. -/
  | header
  /-- It holds a table that has a header. -/
  | implied
  /-- It holds a value with a dotted key. -/
  | dotted
  deriving Repr, DecidableEq

/-- A value. -/
inductive Value where
  | scalar (s : Scalar)
  /-- An array that is written in brackets, and complete. -/
  | array (items : List Value)
  | table (origin : Origin) (members : List (String × Value))
  /-- Tables that share a header, the latest first. -/
  | tables (items : List Value)

/-- The members of a table. -/
abbrev Members := List (String × Value)

/-! ## Values as JSON -/

/-- A value that holds no others, as JSON.  Times are objects with one member, and integers of more
than 64 bits are no integers. -/
def Scalar.toJson : Scalar → Json
  | string s => .str s
  | integer n => if Word.holds 64 n then .num (.int n) else .num (.float (Float.ofInt n))
  | float _ => .num (.float 0.5)
  | boolean b => .bool b
  | time text => .obj [("time", .str text)]

mutual

/-- A value as JSON. -/
def Value.toJson : Value → Json
  | .scalar s => s.toJson
  | .array items => .arr (Value.itemsToJson items)
  | .table _ members => Json.ofMembers (Value.membersToJson members)
  | .tables items => .arr (Value.itemsToJson items).reverse

/-- The items as nodes. -/
def Value.itemsToJson : List Value → List Json
  | [] => []
  | v :: vs => v.toJson :: Value.itemsToJson vs

/-- The members as nodes, in their order. -/
def Value.membersToJson : List (String × Value) → List (String × Json)
  | [] => []
  | (k, v) :: ms => (k, v.toJson) :: Value.membersToJson ms

end

end ChatArchive.Toml
