import HashIf.Decimal.Binary64

/-!
# `HashIf.Document.Value`: what a settings document holds

The entries of a table keep the order in which their keys first occur; a key that occurs again
keeps its place and takes the later value.
-/

namespace HashIf.Document

/-- A value of a settings document. -/
inductive Value where
  | null
  | bool (value : Bool)
  | int (value : Int)
  | float (value : Binary64)
  | str (text : String)
  | list (items : List Value)
  | table (entries : List (String × Value))
  deriving Repr

/-- The entries of a table, in the order of their keys' first occurrence. -/
abbrev Entries := List (String × Value)

namespace Entries

/-- The value under a key. -/
def get? (key : String) : Entries → Option Value
  | [] => none
  | (k, v) :: rest => if k == key then some v else get? key rest

/-- Sets the value under a key: in place if the key is there, at the end otherwise. -/
def set (key : String) (value : Value) : Entries → Entries
  | [] => [(key, value)]
  | (k, v) :: rest => if k == key then (k, value) :: rest else (k, v) :: set key value rest

/-- The table that a row of key and value pairs builds. -/
def ofPairs (pairs : List (String × Value)) : Entries :=
  pairs.foldl (fun t p => set p.1 p.2 t) []

end Entries

end HashIf.Document
