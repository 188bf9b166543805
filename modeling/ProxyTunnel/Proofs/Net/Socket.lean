import ProxyTunnel.Net.Socket
import ProxyTunnel.Proofs.Net.Ipv6

/-!
# Socket addresses are read as they are written

The text of a socket address is read back but for the flow information, which has no written form
(`parse?_chars`). What a whole text was read as tells how it starts: an IPv4 address is followed by
a colon and digits only, and an IPv6 address stands in brackets (`parseV4?_eq_some`,
`parseV6?_eq_some`).
-/

namespace ProxyTunnel

open Text Text.Numeral Net

namespace SocketAddress

variable {s : List Char} {a : SocketAddress}

/-- A socket address without its flow information. -/
def written : SocketAddress → SocketAddress
  | .v4 ip port => .v4 ip port
  | .v6 ip port _ scope => .v6 ip port 0 scope

/-! ## Numbers behind a sign -/

theorem readNumber?_toDigits_append (sign : Char) {max n : Nat} (hn : n ≤ max)
    (hs : NoDigit 10 s) :
    readNumber? sign max (sign :: (Nat.toDigits 10 n ++ s)) = some (n, s) := by
  simp [readNumber?, skip?_cons_self, digits_toDigits_append (by decide) (by decide) _ hs,
    rest_toDigits_append (by decide) (by decide) _ hs, value_toDigits, hn]

theorem readNumber?_port (port : UInt16) :
    readNumber? ':' 65535 (':' :: Nat.toDigits 10 port.toNat) = some (port.toNat, []) := by
  have hlt := port.toNat_lt
  have h := readNumber?_toDigits_append ':' (show port.toNat ≤ 65535 by omega) (noDigit_nil 10)
  rwa [List.append_nil] at h

/-- A number to the end of a text is a sign and digits. -/
theorem exists_of_readNumber? {sign : Char} {max n : Nat}
    (h : readNumber? sign max s = some (n, [])) :
    ∃ ds, s = sign :: ds ∧ ∀ c ∈ ds, isDigit 10 c = true := by
  simp only [readNumber?, Option.bind_eq_bind, Option.bind_eq_some_iff,
    Option.ite_none_left_eq_some, Option.some.injEq, Prod.mk.injEq] at h
  obtain ⟨t, ht, -, -, hrest⟩ := h
  refine ⟨t, eq_cons_of_skip? ht, fun c hc => ?_⟩
  rw [← digits_append_rest 10 t, hrest, List.append_nil] at hc
  exact isDigit_of_mem_digits hc

/-! ## Whole addresses -/

theorem parseV4?_chars (ip : Ipv4) (port : UInt16) :
    parseV4? (ip.chars ++ ':' :: Nat.toDigits 10 port.toNat) = some (.v4 ip port) := by
  have hcolon : NoDigit 10 (':' :: Nat.toDigits 10 port.toNat) := noDigit_cons rfl _
  simp [parseV4?, Ipv4.read?_eq_some.mpr ⟨rfl, hcolon⟩, readNumber?_port]

theorem parseV6?_chars (ip : Ipv6) (port : UInt16) (flow scope : UInt32) :
    parseV6? (v6 ip port flow scope).chars = some (.v6 ip port 0 scope) := by
  have hbracket (t : List Char) : Ipv6.Closes (']' :: t) := by
    rintro c ⟨⟩
    decide
  have hpercent (t : List Char) : Ipv6.Closes ('%' :: t) := by
    rintro c ⟨⟩
    decide
  by_cases hscope : scope = 0
  · subst hscope
    have hnone (t : List Char) : readNumber? '%' 4294967295 (']' :: t) = none := rfl
    simp [parseV6?, chars, skip?_cons_self, Ipv6.read?_chars_append ip (hbracket _), hnone,
      readNumber?_port]
  · have hnumber (t : List Char) : readNumber? '%' 4294967295
        ('%' :: (Nat.toDigits 10 scope.toNat ++ ']' :: t)) = some (scope.toNat, ']' :: t) :=
      readNumber?_toDigits_append '%' (Nat.le_of_lt_succ scope.toNat_lt) (noDigit_cons rfl t)
    simp [parseV6?, chars, skip?_cons_self, Ipv6.read?_chars_append ip (hpercent _), hscope,
      hnumber, readNumber?_port]

theorem parse?_chars (a : SocketAddress) : parse? a.chars = some a.written := by
  cases a with
  | v4 ip port => rw [parse?, chars, parseV4?_chars, Option.some_or, written]
  | v6 ip port flow scope =>
    have hbracket : parseV4? (v6 ip port flow scope).chars = none := rfl
    rw [parse?, hbracket, Option.none_or, parseV6?_chars, written]

theorem parseV4?_eq_some (h : parseV4? s = some a) :
    ∃ ip port ds, s = ip.chars ++ ':' :: ds ∧ (∀ c ∈ ds, isDigit 10 c = true) ∧
      a = .v4 ip port := by
  simp only [parseV4?, Option.bind_eq_bind, Option.bind_eq_some_iff, Prod.exists] at h
  obtain ⟨ip, t, hip, port, r, hport, ha⟩ := h
  split at ha
  · rename_i n hn
    cases hn
    cases ha
    obtain ⟨ds, rfl, hds⟩ := exists_of_readNumber? hport
    exact ⟨ip, _, ds, (Ipv4.read?_eq_some.mp hip).1, hds, rfl⟩
  · cases ha

theorem parseV6?_eq_some (h : parseV6? s = some a) :
    s.head? = some '[' ∧ ∃ ip port scope, a = .v6 ip port 0 scope := by
  simp only [parseV6?, Option.bind_eq_bind, Option.bind_eq_some_iff, Prod.exists] at h
  obtain ⟨t, ht, ip, r, -, r', -, port, r'', -, ha⟩ := h
  split at ha
  · cases ha
    exact ⟨by rw [eq_cons_of_skip? ht]; rfl, _, _, _, rfl⟩
  · cases ha

end SocketAddress

end ProxyTunnel
