import ProxyTunnel.Net.Word
import ProxyTunnel.Text.Numeral

/-!
# IPv4 addresses

Dotted decimal notation: four numbers of at most 255, one to three digits each and no leading zero.
`Ipv4.read?` takes an address off the front of a text, `Ipv4.parse?` reads a whole text, and
`Ipv4.chars` writes one.
-/

namespace ProxyTunnel

open Text

/-- An IPv4 address, most significant byte first. -/
structure Ipv4 where
  a : UInt8
  b : UInt8
  c : UInt8
  d : UInt8
  deriving Repr, DecidableEq

namespace Net

/-- What follows a given character at the front of a text. -/
def skip? (c : Char) : List Char → Option (List Char)
  | [] => none
  | x :: s => if x = c then some s else none

theorem skip?_cons_self (c : Char) (s : List Char) : skip? c (c :: s) = some s := by simp [skip?]

theorem eq_cons_of_skip? {c : Char} {s t : List Char} (h : skip? c s = some t) : s = c :: t := by
  cases s with
  | nil => simp [skip?] at h
  | cons x s =>
    simp only [skip?] at h
    split at h
    · simp_all
    · simp at h

end Net

namespace Ipv4

open Net

/-- One number of the dotted notation and what follows it. -/
def readOctet? (s : List Char) : Option (UInt8 × List Char) :=
  let ds := Numeral.digits 10 s
  if ds = [] ∨ 3 < ds.length ∨ (ds.head? = some '0' ∧ 1 < ds.length) then none
  else
    let n := Numeral.value 10 ds
    if n ≤ 255 then some (UInt8.ofNat n, Numeral.rest 10 s) else none

/-- An address at the front of a text and what follows it. -/
def read? (s : List Char) : Option (Ipv4 × List Char) := do
  let (a, s) ← readOctet? s
  let s ← skip? '.' s
  let (b, s) ← readOctet? s
  let s ← skip? '.' s
  let (c, s) ← readOctet? s
  let s ← skip? '.' s
  let (d, s) ← readOctet? s
  pure (⟨a, b, c, d⟩, s)

/-- Reads a whole text as an address. -/
def parse? (s : List Char) : Option Ipv4 :=
  match read? s with
  | some (ip, []) => some ip
  | _ => none

/-- The dotted notation. -/
def chars (ip : Ipv4) : List Char :=
  Nat.toDigits 10 ip.a.toNat ++ '.' :: (Nat.toDigits 10 ip.b.toNat ++ '.' ::
    (Nat.toDigits 10 ip.c.toNat ++ '.' :: Nat.toDigits 10 ip.d.toNat))

/-- The four bytes in the order they are sent. -/
def bytes (ip : Ipv4) : List UInt8 := [ip.a, ip.b, ip.c, ip.d]

theorem length_bytes (ip : Ipv4) : ip.bytes.length = 4 := rfl

/-- The address of four bytes. -/
def ofVector (v : Vector UInt8 4) : Ipv4 :=
  let (a, b, c, d) := Word.quad v
  ⟨a, b, c, d⟩

/-- The address of a number below 2^32. -/
def ofNat (n : Nat) : Ipv4 :=
  ⟨UInt8.ofNat (n / 16777216), UInt8.ofNat (n / 65536), UInt8.ofNat (n / 256), UInt8.ofNat n⟩

end Ipv4

end ProxyTunnel
