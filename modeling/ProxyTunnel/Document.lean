/-!
# Structured values

What a configuration is read from: the values that the data formats of configurations share. A table
keeps its entries in the order they were given, also if there are several with one key. Where the key
has a meaning, such a table is refused (`isUnambiguous`).
-/

namespace ProxyTunnel

inductive Document where
  | null
  | boolean (value : Bool)
  | integer (value : Int)
  | text (value : String)
  | list (items : List Document)
  | table (entries : List (String × Document))
  /-- A value of a kind that no setting takes: a number with a fraction, a date or a time. -/
  | other
  deriving Inhabited

namespace Document

/-- The value of a key. -/
def lookup (key : String) : List (String × Document) → Option Document
  | [] => none
  | (k, v) :: es => if k = key then some v else lookup key es

/-- How many entries a key has. -/
def occurrences (key : String) (es : List (String × Document)) : Nat := (es.map Prod.fst).count key

/-- Whether each of the keys has one entry at most. -/
def isUnambiguous (keys : List String) (es : List (String × Document)) : Bool :=
  keys.all fun key => occurrences key es ≤ 1

end Document

end ProxyTunnel
