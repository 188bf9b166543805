import ProxyTunnel.Net.Ipv4

/-!
# IPv6 addresses

Eight groups of sixteen bits. Reading accepts groups of one to four hexadecimal digits, one `::`
that stands for at least one zero group, and a dotted IPv4 address in place of the last two groups.
Writing gives the canonical text: the longest row of at least two zero groups (the first of several)
becomes `::`, no group has leading zeros, and an IPv4-mapped address ends in dotted notation.
-/

namespace ProxyTunnel

open Text Net

/-- An IPv6 address, most significant group first. -/
structure Ipv6 where
  groups : List UInt16
  length_eq : groups.length = 8 := by rfl
  deriving DecidableEq, Repr

namespace Ipv6

/-- The address of eight groups. -/
def ofGroups? (gs : List UInt16) : Option Ipv6 :=
  if h : gs.length = 8 then some ⟨gs, h⟩ else none

/-- The two groups an IPv4 address fills. -/
def groupsOfIpv4 (ip : Ipv4) : List UInt16 := [Word.ofBytes ip.a ip.b, Word.ofBytes ip.c ip.d]

/-- A group of one to four hexadecimal digits and what follows it. -/
def readGroup? (s : List Char) : Option (UInt16 × List Char) :=
  let ds := Numeral.digits 16 s
  if ds = [] ∨ 4 < ds.length then none
  else some (UInt16.ofNat (Numeral.value 16 ds), Numeral.rest 16 s)

/-- Groups separated by colons at the front of a text. -/
structure Groups where
  groups : List UInt16
  /-- Whether the last two groups were written as an IPv4 address. -/
  dotted : Bool
  rest : List Char

/-- Reads at most `limit` groups; each but the very first stands behind a colon. Reading stops in
front of the first that can not be read, and behind a dotted address, which needs room for two. -/
def readGroups : (limit : Nat) → (first : Bool) → List Char → Groups
  | 0, _, s => ⟨[], false, s⟩
  | n + 1, first, s =>
    match if first then some s else skip? ':' s with
    | none => ⟨[], false, s⟩
    | some t =>
      match if n = 0 then none else Ipv4.read? t with
      | some (ip, r) => ⟨groupsOfIpv4 ip, true, r⟩
      | none =>
        match readGroup? t with
        | none => ⟨[], false, s⟩
        | some (g, r) =>
          let more := readGroups n false r
          ⟨g :: more.groups, more.dotted, more.rest⟩

/-- An address at the front of a text and what follows it. -/
def read? (s : List Char) : Option (Ipv6 × List Char) :=
  let head := readGroups 8 true s
  if head.groups.length = 8 then (ofGroups? head.groups).map (·, head.rest)
  else if head.dotted then none
  else do
    let r ← skip? ':' head.rest
    let r ← skip? ':' r
    let tail := readGroups (7 - head.groups.length) true r
    let zeros := List.replicate (8 - head.groups.length - tail.groups.length) 0
    (ofGroups? (head.groups ++ zeros ++ tail.groups)).map (·, tail.rest)

/-- Reads a whole text as an address. -/
def parse? (s : List Char) : Option Ipv6 :=
  match read? s with
  | some (ip, []) => some ip
  | _ => none

/-- How many zero groups a row starts with. -/
def leadingZeros : List UInt16 → Nat
  | [] => 0
  | g :: gs => if g = 0 then leadingZeros gs + 1 else 0

/-- Where the longest row of zero groups starts, and its length; of several the first. The groups
given start at position `i`. -/
def longestZeros : (i : Nat) → List UInt16 → Nat × Nat
  | _, [] => (0, 0)
  | i, g :: gs =>
    let later := longestZeros (i + 1) gs
    let here := leadingZeros (g :: gs)
    if later.2 ≤ here then (i, here) else later

/-- A group in small hexadecimal letters. -/
def groupChars (g : UInt16) : List Char := Nat.toDigits 16 g.toNat

/-- Groups separated by colons. -/
def joinGroups : List UInt16 → List Char
  | [] => []
  | [g] => groupChars g
  | g :: gs => groupChars g ++ ':' :: joinGroups gs

/-- The IPv4 address inside an IPv4-mapped address. -/
def mapped? (ip : Ipv6) : Option Ipv4 :=
  match ip.groups with
  | [0, 0, 0, 0, 0, 0xFFFF, x, y] =>
    some ⟨UInt8.ofNat (x.toNat / 256), UInt8.ofNat x.toNat,
      UInt8.ofNat (y.toNat / 256), UInt8.ofNat y.toNat⟩
  | _ => none

/-- The canonical text. -/
def chars (ip : Ipv6) : List Char :=
  match mapped? ip with
  | some ip4 => "::ffff:".toList ++ ip4.chars
  | none =>
    let (start, len) := longestZeros 0 ip.groups
    if 1 < len then
      joinGroups (ip.groups.take start) ++ "::".toList ++ joinGroups (ip.groups.drop (start + len))
    else joinGroups ip.groups

/-- The sixteen bytes in the order they are sent. -/
def bytes (ip : Ipv6) : List UInt8 := ip.groups.flatMap Word.bytes

theorem length_bytes (ip : Ipv6) : ip.bytes.length = 16 := by
  have h : ∀ gs : List UInt16, (gs.flatMap Word.bytes).length = 2 * gs.length := by
    intro gs
    induction gs with
    | nil => rfl
    | cons g gs ih => simp only [List.flatMap_cons, List.length_append, ih, Word.bytes,
        List.length_cons, List.length_nil]; omega
  simp [bytes, h, ip.length_eq]

/-- The address of sixteen bytes. -/
def ofVector (v : Vector UInt8 16) : Ipv6 :=
  ⟨[Word.ofBytes v[0] v[1], Word.ofBytes v[2] v[3], Word.ofBytes v[4] v[5],
    Word.ofBytes v[6] v[7], Word.ofBytes v[8] v[9], Word.ofBytes v[10] v[11],
    Word.ofBytes v[12] v[13], Word.ofBytes v[14] v[15]], rfl⟩

end Ipv6

end ProxyTunnel
