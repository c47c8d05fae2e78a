import ChatArchive.Toml.Basic
import ChatArchive.Toml.Quoted
import ChatArchive.Text.Basic

/-!
# Writing documents

A document of scalars in one level of tables: first the values without a table, then each table
with its header, with empty lines between.
-/

namespace ChatArchive.Toml

/-- A scalar as it is written. -/
def Scalar.toText : Scalar → List Char
  | string s => quoted s
  | integer n => (toString n).toList
  | float text | time text => text.toList
  | boolean b => (if b then "true" else "false").toList

/-- A key without quotes and its value. -/
abbrev Entry := String × Scalar

/-- The line of an entry. -/
def entryText (e : Entry) : List Char := e.1.toList ++ " = ".toList ++ e.2.toText ++ ['\n']

/-- A document of scalars. -/
structure Document where
  /-- The values that stand in no table. -/
  entries : List Entry
  tables : List (String × List Entry)

namespace Document

/-- The lines of some entries. -/
def entriesText (es : List Entry) : List Char := es.flatMap entryText

/-- A table: its header, then its entries. -/
def tableText (t : String × List Entry) : List Char :=
  ['['] ++ t.1.toList ++ [']', '\n'] ++ entriesText t.2

/-- The parts of a document between which an empty line stands. -/
def parts (d : Document) : List (List Char) :=
  (if d.entries.isEmpty then [] else [entriesText d.entries]) ++ d.tables.map tableText

/-- The text of a document. -/
def toText (d : Document) : String := String.ofList (List.intercalate ['\n'] d.parts)

end Document

end ChatArchive.Toml
