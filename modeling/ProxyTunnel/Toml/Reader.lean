import ProxyTunnel.Toml.Scalar
import ProxyTunnel.Toml.Table
import ProxyTunnel.Toml.Text

/-!
# Reading TOML

`Toml.parse?` reads a whole TOML text into a table. Values may stand inside one another up to
`maxDepth`; `fuel` bounds the number of parts and is the length of the text.
-/

namespace ProxyTunnel.Toml

/-- How deep brackets and braces may be nested. -/
def maxDepth : Nat := 80

/-- Reads a key, an equals sign, and what stands behind it. -/
def readPair? (readValue : List Char → Option (Document × List Char)) (fuel : Nat) (s : List Char) :
    Option ((List String × Document) × List Char) := do
  let (key, s) ← readKey? fuel s
  match skipSpaces s with
  | '=' :: s => do
    let (value, s) ← readValue (skipSpaces s)
    some ((key, value), s)
  | _ => none

mutual

/-- Reads a value. -/
def readValue? : (fuel depth : Nat) → List Char → Option (Document × List Char)
  | 0, _, _ => none
  | fuel + 1, depth, s =>
    match s with
    | '[' :: s =>
      if depth = 0 then none
      else (readItems? fuel (depth - 1) s).map fun r => (.list r.1, r.2)
    | '\x7b' :: s =>
      if depth = 0 then none
      else do
        let (pairs, s) ← readPairs? fuel (depth - 1) s
        (inlineTable? pairs).map (·, s)
    | '"' :: _ | '\'' :: _ => (readText? s).map fun r => (.text (String.ofList r.1), r.2)
    | _ => readScalar? s

/-- Reads the rest of a list, from an item or the end. -/
def readItems? : (fuel depth : Nat) → List Char → Option (List Document × List Char)
  | 0, _, _ => none
  | fuel + 1, depth, s => do
    match ← skipBlanks? false s with
    | ']' :: s => some ([], s)
    | s => do
      let (item, s) ← readValue? fuel depth s
      match ← skipBlanks? false s with
      | ',' :: s => do
        let (items, s) ← readItems? fuel depth s
        some (item :: items, s)
      | ']' :: s => some ([item], s)
      | _ => none

/-- Reads the rest of a table in braces, from a key or the end. -/
def readPairs? : (fuel depth : Nat) → List Char →
    Option (List (List String × Document) × List Char)
  | 0, _, _ => none
  | fuel + 1, depth, s => do
    match ← skipBlanks? false s with
    | '\x7d' :: s => some ([], s)
    | s => do
      let (pair, s) ← readPair? (readValue? fuel depth) fuel s
      match ← skipBlanks? false s with
      | ',' :: s => do
        let (pairs, s) ← readPairs? fuel depth s
        some (pair :: pairs, s)
      | '\x7d' :: s => some ([pair], s)
      | _ => none

end

/-- Where statements go: the path of the header they stand under, and the tree so far. -/
structure Reading where
  path : List String := []
  entries : Entries := []

/-- Reads a header and opens its table. -/
def readHeader? (fuel : Nat) (r : Reading) (s : List Char) : Option (Reading × List Char) :=
  match s with
  | '[' :: '[' :: s => do
    match ← readKey? fuel s with
    | (path, ']' :: ']' :: s) => do some (⟨path, ← openItem path r.entries⟩, s)
    | _ => none
  | '[' :: s => do
    match ← readKey? fuel s with
    | (path, ']' :: s) => do some (⟨path, ← openTable path r.entries⟩, s)
    | _ => none
  | _ => none

/-- Reads a header or a key with its value. -/
def readStatement? (fuel : Nat) (r : Reading) (s : List Char) : Option (Reading × List Char) :=
  if s.head? = some '[' then readHeader? fuel r s
  else do
    let ((key, value), s) ← readPair? (readValue? fuel maxDepth) fuel s
    let entries ← within r.path (assign key value) r.entries
    some ({ r with entries }, s)

/-- Reads statements, each on lines of its own. -/
def readStatements? : (fuel : Nat) → Reading → List Char → Option Reading
  | 0, _, _ => none
  | fuel + 1, r, s => do
    match ← skipBlanks? false s with
    | [] => some r
    | s => do
      let (r, s) ← readStatement? (fuel + 1) r s
      readStatements? fuel r (← skipLine? s)

/-- A text without byte order mark. -/
def dropMark (s : List Char) : List Char :=
  match s with
  | '\uFEFF' :: s => s
  | _ => s

/-- Reads a TOML text. -/
def parse? (s : List Char) : Option Document := do
  let r ← readStatements? (s.length + 1) {} (dropMark s)
  some (.table (closeEntries r.entries))

end ProxyTunnel.Toml
