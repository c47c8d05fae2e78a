import ChatArchive.Pattern.Matcher

/-!
# Queries

What a search asks for: a mode with its terms, and terms that must not occur.  All terms of
substring modes and all exclusions are in lowercase.
-/

namespace ChatArchive

open ChatArchive.Pattern (Matcher)

/-- What the searched text has to satisfy. -/
inductive Query.Mode where
  /-- Nothing was asked for. -/
  | none
  /-- Only exclusions were given. -/
  | all
  /-- A term has to occur. -/
  | contains (term : String)
  /-- One of several terms has to occur. -/
  | any (terms : List String)
  /-- A pattern has to match. -/
  | pattern (m : Matcher)
  /-- The identifier has to contain one of those listed. -/
  | ids (wanted : List String)

namespace Query.Mode

/-- Two modes are the same if their terms are; patterns are compared by their text. -/
def same : Mode → Mode → Bool
  | none, none => true
  | all, all => true
  | contains a, contains b => a == b
  | any a, any b => a == b
  | pattern a, pattern b => a.source == b.source
  | ids a, ids b => a == b
  | _, _ => false

/-- Does the mode select by identifier? -/
def isIds : Mode → Bool
  | ids _ => true
  | _ => false

end Query.Mode

/-- A query. -/
structure Query where
  mode : Query.Mode
  exclusions : List String

namespace Query

/-- The query that asks for nothing. -/
def empty : Query := ⟨.none, []⟩

instance : Inhabited Query := ⟨empty⟩

/-- Does the query ask for nothing and exclude nothing? -/
def isEmpty (q : Query) : Bool :=
  match q.mode with
  | .none => q.exclusions.isEmpty
  | _ => false

/-- Does the query select by identifier? -/
def isIdSearch (q : Query) : Bool := q.mode.isIds

/-- Two queries are the same if their modes and exclusions are. -/
def same (a b : Query) : Bool := a.mode.same b.mode && a.exclusions == b.exclusions

end Query

end ChatArchive
