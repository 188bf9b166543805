import ProxyTunnel.Document

/-!
# Building tables from TOML

The statements of a TOML text fill a tree of tables. What a statement may still add to a table
depends on how the table came to be: by a header of its own, by the header of a table inside it, or
by a key with dots. Nothing can be added to a value once it is written.
-/

namespace ProxyTunnel.Toml

/-- How a table came to be. -/
inductive Origin where
  | header
  /-- By the header of a table inside it. -/
  | implied
  /-- By a key with dots. -/
  | dotted
  deriving DecidableEq, Repr

/-- A part of the tree. -/
inductive Node where
  | value (d : Document)
  | table (origin : Origin) (entries : List (String × Node))
  /-- Tables under one header, the one written last in front. -/
  | tables (items : List (List (String × Node)))

/-- What a table holds. -/
abbrev Entries := List (String × Node)

/-- Replaces what stands under a key, if `f` allows it; `f none` is the answer for a new key. -/
def alter (key : String) (f : Option Node → Option Node) : Entries → Option Entries
  | [] => (f none).map fun n => [(key, n)]
  | (k, n) :: es =>
    if k = key then (f (some n)).map fun n => (k, n) :: es
    else (alter key f es).map ((k, n) :: ·)

/-- Goes down a path of headers and replaces what the table at its end holds. -/
def within : (path : List String) → (Entries → Option Entries) → Entries → Option Entries
  | [], f, es => f es
  | key :: path, f, es => alter key (fun
    | none => (within path f []).map (.table .implied)
    | some (.table origin es) => (within path f es).map (.table origin)
    | some (.tables (es :: items)) => (within path f es).map fun es => .tables (es :: items)
    | some (.tables []) | some (.value _) => none) es

/-- Writes a value under a key with dots. -/
def assign : (key : List String) → Document → Entries → Option Entries
  | [], _, _ => none
  | [key], d, es => alter key (fun
    | none => some (.value d)
    | some _ => none) es
  | key :: path, d, es => alter key (fun
    | none => (assign path d []).map (.table .dotted)
    | some (.table .dotted es) => (assign path d es).map (.table .dotted)
    | some (.table .implied es) =>
      if path.length = 1 then none else (assign path d es).map (.table .implied)
    | some (.tables (es :: items)) =>
      if path.length = 1 then none else (assign path d es).map fun es => .tables (es :: items)
    | some _ => none) es

/-- Opens a table under a header. -/
def openTable (path : List String) (es : Entries) : Option Entries :=
  match path.getLast? with
  | none => none
  | some key => within path.dropLast (alter key fun
    | none => some (.table .header [])
    | some (.table .implied es) => some (.table .header es)
    | some _ => none) es

/-- Opens one more table under a header in double brackets. -/
def openItem (path : List String) (es : Entries) : Option Entries :=
  match path.getLast? with
  | none => none
  | some key => within path.dropLast (alter key fun
    | none => some (.tables [[]])
    | some (.tables items) => some (.tables ([] :: items))
    | some _ => none) es

mutual

/-- The value a part of the tree has become. -/
def Node.close : Node → Document
  | .value d => d
  | .table _ es => .table (closeEntries es)
  | .tables items => .list (closeItems items [])

/-- The values a table has become. -/
def closeEntries : List (String × Node) → List (String × Document)
  | [] => []
  | (k, n) :: es => (k, n.close) :: closeEntries es

/-- The tables under one header, in the order they were written. -/
def closeItems : List (List (String × Node)) → List Document → List Document
  | [], done => done
  | es :: items, done => closeItems items (.table (closeEntries es) :: done)

end

/-- The value of a table that stands in braces. -/
def inlineTable? (pairs : List (List String × Document)) : Option Document :=
  (pairs.foldlM (fun es p => assign p.1 p.2 es) []).map fun es => .table (closeEntries es)

end ProxyTunnel.Toml
