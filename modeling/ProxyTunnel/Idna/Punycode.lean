import ProxyTunnel.Text.Numeral

/-!
# Punycode

Rows of characters in letters, digits and hyphens. The ASCII characters come first, as they are;
behind a hyphen follow the others in ascending order, each as the number of steps from the one
before, in a mixed base whose thresholds adapt to the sizes seen. `encode` writes the form and
`decode` reads it, refusing what is no such form.
-/

namespace ProxyTunnel.Idna.Punycode

/-- The letter of a digit below 36. -/
def digitChar (d : Nat) : Char := if d < 26 then Char.ofNat (97 + d) else Char.ofNat (22 + d)

/-- The digit of a letter in either case. -/
def digit? (c : Char) : Option Nat :=
  let n := c.toNat
  if 97 ≤ n ∧ n ≤ 122 then some (n - 97)
  else if 65 ≤ n ∧ n ≤ 90 then some (n - 65)
  else if 48 ≤ n ∧ n ≤ 57 then some (n - 22)
  else none

/-- From which digit on the number goes on, at position `k` of a number. -/
def threshold (k bias : Nat) : Nat :=
  if k ≤ bias then 1 else if bias + 26 ≤ k then 26 else k - bias

theorem threshold_pos (k bias : Nat) : 1 ≤ threshold k bias := by
  unfold threshold; repeat' split
  all_goals omega

/-- Brings a step size down to at most 455 and counts the rounds. -/
def shrink (delta k : Nat) : Nat × Nat :=
  if 455 < delta then shrink (delta / 35) (k + 36) else (delta, k)
termination_by delta

/-- The bias behind a step of size `delta` to the `count`-th character. -/
def adapt (delta count : Nat) (first : Bool) : Nat :=
  let d := if first then delta / 700 else delta / 2
  let (d, k) := shrink (d + d / count) 0
  k + 36 * d / (d + 38)

/-- A number in the mixed base. -/
def encodeNumber (bias k q : Nat) : List Char :=
  let t := threshold k bias
  if q < t then [digitChar q]
  else digitChar (t + (q - t) % (36 - t)) :: encodeNumber bias (k + 36) ((q - t) / (36 - t))
termination_by q
decreasing_by
  have h₁ := threshold_pos k bias
  calc (q - threshold k bias) / (36 - threshold k bias)
      ≤ q - threshold k bias := Nat.div_le_self _ _
    _ < q := by omega

/-- What has been written, and what the next number starts from. -/
structure Encoder where
  out : List Char
  delta : Nat
  bias : Nat
  /-- How many characters have been written. -/
  count : Nat

/-- Passes one character while all characters `m` are written; `basic` were written as they are. -/
def Encoder.pass (basic m : Nat) (e : Encoder) (c : Char) : Encoder :=
  if c.toNat < m then { e with delta := e.delta + 1 }
  else if c.toNat = m then
    { out := e.out ++ encodeNumber e.bias 36 e.delta, delta := 0,
      bias := adapt e.delta (e.count + 1) (e.count = basic), count := e.count + 1 }
  else e

/-- Writes the characters above ASCII, given in ascending order; `n` is the least that can still
come. -/
def Encoder.run (input : List Char) (basic : Nat) : List Nat → Nat → Encoder → Encoder
  | [], _, e => e
  | m :: ms, n, e =>
    let e := { e with delta := e.delta + (m - n) * (e.count + 1) }
    let e := input.foldl (Encoder.pass basic m) e
    Encoder.run input basic ms (m + 1) { e with delta := e.delta + 1 }

/-- Writes a row of characters. -/
def encode (s : List Char) : List Char :=
  let basic := s.filter (·.toNat < 0x80)
  let others := ((s.map Char.toNat).filter (0x80 ≤ ·)).mergeSort.eraseDups
  let e := Encoder.run s basic.length others 0x80 ⟨[], 0, 72, basic.length⟩
  (if basic.isEmpty then [] else basic ++ ['-']) ++ e.out

/-- The largest step that can be read. -/
def maxStep : Nat := 4294967295

/-- What has been read: the characters so far, the last one inserted, where the next one goes, and
the number under way. -/
structure Decoder where
  out : List Char
  code : Nat
  bias : Nat
  /-- The position reached. -/
  i : Nat
  /-- The position in front of the number under way, its weight and its place. -/
  start : Nat
  weight : Nat
  k : Nat

/-- Ends a number: the character it leads to is inserted. -/
def Decoder.insert? (d : Decoder) : Option Decoder :=
  let count := d.out.length + 1
  let code := d.code + d.i / count
  if h : code.isValidChar then
    let at' := d.i % count
    let bias := adapt (d.i - d.start) count (d.start = 0)
    some ⟨d.out.insertIdx at' (Char.ofNatAux code h), code, bias, at' + 1, at' + 1, 1, 36⟩
  else none

/-- Reads one digit. -/
def Decoder.push? (d : Decoder) (c : Char) : Option Decoder := do
  let v ← digit? c
  let i := d.i + v * d.weight
  if maxStep < i then none
  else
    let t := threshold d.k d.bias
    if v < t then Decoder.insert? { d with i := i }
    else
      let weight := d.weight * (36 - t)
      if maxStep < weight then none
      else some { d with i := i, weight := weight, k := d.k + 36 }

/-- Reads all digits. The last number must have come to its end. -/
def Decoder.run? : List Char → Decoder → Option (List Char)
  | [], d => if d.k = 36 then some d.out else none
  | c :: s, d => (d.push? c).bind (Decoder.run? s)

/-- What stands before and behind the last hyphen. A hyphen in front separates nothing. -/
def splitHyphen (s : List Char) : List Char × List Char :=
  let behind := (s.reverse.takeWhile (· ≠ '-')).reverse
  let before := (s.take (s.length - behind.length)).dropLast
  if before.isEmpty then ([], s) else (before, behind)

/-- Reads a row of characters. -/
def decode (s : List Char) : Option (List Char) :=
  let (basic, digits) := splitHyphen s
  Decoder.run? digits ⟨basic, 0x80, 72, 0, 0, 1, 36⟩

end ProxyTunnel.Idna.Punycode
