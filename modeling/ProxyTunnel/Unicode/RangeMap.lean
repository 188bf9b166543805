import ProxyTunnel.Text.Numeral
import ProxyTunnel.Text.Split

/-!
# Tables of code points

A property of characters as a sorted row of code point ranges, each with a value. Tables are written
as text: entries separated by blanks, each `first-last:value` with code points in hexadecimal; a
range of one code point leaves out `-last`, an entry without a value leaves out the colon.
`RangeMap.find?` looks a code point up by halving.
-/

namespace ProxyTunnel.Unicode

open Text

/-- Code points from `first` to `last` and the value they share. -/
structure Range (α : Type) where
  first : Nat
  last : Nat
  value : α

/-- Whether a range contains a code point. -/
def Range.contains {α : Type} (r : Range α) (n : Nat) : Bool := r.first ≤ n && n ≤ r.last

/-- Ranges in ascending order. -/
structure RangeMap (α : Type) where
  ranges : Array (Range α)

namespace RangeMap

variable {α : Type}

/-- Reads one entry of a table. -/
def readEntry (value : List Char → α) (s : List Char) : Range α :=
  let span := s.takeWhile (· ≠ ':')
  let first := Numeral.value 16 (span.takeWhile (· ≠ '-'))
  let last := match span.dropWhile (· ≠ '-') with
    | _ :: t => Numeral.value 16 t
    | [] => first
  ⟨first, last, value ((s.dropWhile (· ≠ ':')).drop 1)⟩

/-- Reads a table. -/
def ofText (value : List Char → α) (s : String) : RangeMap α :=
  let entries := (splitAll (fun c => c = ' ' || c = '\n') s.toList).filter (· ≠ [])
  ⟨(entries.map (readEntry value)).toArray⟩

/-- The last of the ranges between positions `lo` and `hi` that starts at most at `n`, if it
contains `n`. Each round halves the row, so as many rounds as its length has binary digits do. -/
def search (t : RangeMap α) (n : Nat) : (rounds lo hi : Nat) → Option (Range α)
  | 0, _, _ => none
  | k + 1, lo, hi =>
    if hi ≤ lo then none
    else
      let mid := (lo + hi) / 2
      match t.ranges[mid]? with
      | none => none
      | some r =>
        if n < r.first then search t n k lo mid
        else if r.contains n then some r
        else search t n k (mid + 1) hi

/-- The range that contains a code point. -/
def find? (t : RangeMap α) (n : Nat) : Option (Range α) :=
  search t n (Nat.log2 t.ranges.size + 2) 0 t.ranges.size

/-- The value of a character. -/
def get? (t : RangeMap α) (c : Char) : Option α := (t.find? c.toNat).map Range.value

end RangeMap

/-- A set of characters. -/
abbrev RangeSet := RangeMap Unit

/-- Reads a table without values. -/
def RangeSet.ofText (s : String) : RangeSet := RangeMap.ofText (fun _ => ()) s

/-- Whether a character belongs to a set. -/
def RangeSet.contains (t : RangeSet) (c : Char) : Bool := (t.find? c.toNat).isSome

end ProxyTunnel.Unicode
