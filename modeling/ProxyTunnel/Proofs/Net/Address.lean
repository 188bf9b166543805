import ProxyTunnel.Net.Socket
import ProxyTunnel.Proofs.Net.Ipv6

/-!
# The texts of IP addresses

The texts of an address of either family (`Spells`), which are exactly those that are read as it
(`parse?_eq_some`). Nothing but digits, colons and dots stands in them (`isAddressChar_of_spells`),
and little else in the texts of socket addresses (`SocketAddress.isAddressChar`).
-/

namespace ProxyTunnel

open Text Text.Numeral

/-- The characters of addresses. -/
def IsAddressChar (c : Char) : Prop := isDigit 16 c = true ∨ c = ':' ∨ c = '.'

instance : DecidablePred IsAddressChar := fun _ => inferInstanceAs (Decidable (_ ∨ _ ∨ _))

theorem isAddressChar_toDigits (n : Nat) : ∀ c ∈ Nat.toDigits 10 n, IsAddressChar c := fun c hc =>
  .inl (Ipv6.isDigit_sixteen_of_ten (isDigit_of_mem_toDigits (by decide) (by decide) n c hc))

theorem Ipv4.isAddressChar (ip : Ipv4) : ∀ c ∈ ip.chars, IsAddressChar c := by
  have hdot : IsAddressChar '.' := .inr (.inr rfl)
  simp only [chars, List.forall_mem_append, List.forall_mem_cons]
  exact ⟨isAddressChar_toDigits _, hdot, isAddressChar_toDigits _, hdot, isAddressChar_toDigits _,
    hdot, isAddressChar_toDigits _⟩

namespace Ipv6

variable {gs : List UInt16} {dotted : Bool} {s : List Char}

theorem Row.isAddressChar (h : Row gs dotted s) : ∀ c ∈ s, IsAddressChar c := by
  induction h with
  | group hg => exact fun c hc => .inl (hg.isDigit c hc)
  | dotted ip => exact ip.isAddressChar
  | cons hg _ ih =>
    rw [List.forall_mem_append, List.forall_mem_cons]
    exact ⟨fun c hc => .inl (hg.isDigit c hc), .inr (.inl rfl), ih⟩

theorem Part.isAddressChar (h : Part gs dotted s) : ∀ c ∈ s, IsAddressChar c := by
  cases h with
  | nil => exact List.forall_mem_nil _
  | row h => exact h.isAddressChar

theorem Spells.isAddressChar {ip : Ipv6} (h : ip.Spells s) : ∀ c ∈ s, IsAddressChar c := by
  cases h with
  | full h => exact h.isAddressChar
  | compressed _ hs ht _ =>
    simp only [List.forall_mem_append, List.forall_mem_cons]
    exact ⟨hs.isAddressChar, .inr (.inl rfl), .inr (.inl rfl), ht.isAddressChar⟩

/-- The text goes on with a colon behind its first digits. -/
def ColonFirst (s : List Char) : Prop :=
  ∃ ds t, s = ds ++ ':' :: t ∧ ∀ c ∈ ds, isDigit 16 c = true

theorem Row.colonFirst (h : Row gs dotted s) (hlong : 2 < gs.length) : ColonFirst s := by
  cases h with
  | group hg => simp at hlong
  | dotted ip => simp [groupsOfIpv4] at hlong
  | cons hg _ => exact ⟨_, _, rfl, hg.isDigit⟩

theorem Part.colonFirst (h : Part gs false s) (t : List Char) : ColonFirst (s ++ ':' :: t) := by
  cases h with
  | nil => exact ⟨[], t, rfl, List.forall_mem_nil _⟩
  | row h =>
    cases h with
    | group hg => exact ⟨s, t, rfl, hg.isDigit⟩
    | @cons _ _ ds s _ hg _ => exact ⟨ds, s ++ ':' :: t, by simp, hg.isDigit⟩

theorem Spells.colonFirst {ip : Ipv6} (h : ip.Spells s) : ColonFirst s := by
  cases h with
  | full h => exact h.colonFirst (by rw [ip.length_eq]; decide)
  | compressed _ hs _ _ => exact hs.colonFirst _

/-- No text of an IPv6 address starts with an IPv4 address. -/
theorem Spells.read?_eq_none {ip : Ipv6} (h : ip.Spells s) : Ipv4.read? s = none := by
  obtain ⟨ds, t, rfl, hds⟩ := h.colonFirst
  exact read?_append_of_isDigit hds (noDigit_cons rfl t) (by simp)

/-- Exactly the texts of an address are read as it. -/
theorem parse?_eq_some {ip : Ipv6} : parse? s = some ip ↔ ip.Spells s := by
  constructor
  · intro h
    rw [parse?] at h
    split at h
    · rename_i ip' hread
      cases h
      obtain ⟨t, hspells, rfl⟩ := exists_spells hread
      rwa [List.append_nil]
    · cases h
  · intro h
    have hread := read?_append h closes_nil
    rw [List.append_nil] at hread
    rw [parse?, hread]

end Ipv6

namespace IpAddress

variable {ip : IpAddress} {s : List Char}

/-- The text stands for the address: the dotted notation of an IPv4 address, or one of the texts of
an IPv6 address. -/
inductive Spells : IpAddress → List Char → Prop
  | v4 (ip : Ipv4) : Spells (.v4 ip) ip.chars
  | v6 {ip : Ipv6} {s : List Char} (h : ip.Spells s) : Spells (.v6 ip) s

theorem spells_chars (ip : IpAddress) : ip.Spells ip.chars := by
  cases ip with
  | v4 ip => exact .v4 ip
  | v6 ip => exact .v6 ip.spells_chars

theorem isAddressChar_of_spells (h : ip.Spells s) : ∀ c ∈ s, IsAddressChar c := by
  cases h with
  | v4 ip => exact ip.isAddressChar
  | v6 h => exact h.isAddressChar

/-- Exactly the texts of an address are read as it. -/
theorem parse?_eq_some : parse? s = some ip ↔ ip.Spells s := by
  constructor
  · intro h
    rw [parse?] at h
    split at h
    · rename_i ip' hread
      cases h
      obtain ⟨rfl, -⟩ := Ipv4.read?_eq_some.mp hread
      rw [List.append_nil]
      exact .v4 ip'
    · cases h
    · obtain ⟨ip', hparse, rfl⟩ := Option.map_eq_some_iff.mp h
      exact .v6 (Ipv6.parse?_eq_some.mp hparse)
  · intro h
    cases h with
    | v4 ip => rw [parse?, ← List.append_nil ip.chars, Ipv4.read?_eq_some.mpr ⟨rfl, noDigit_nil 10⟩]
    | v6 h => rw [parse?, h.read?_eq_none, Ipv6.parse?_eq_some.mpr h, Option.map_some]

instance (ip : IpAddress) (s : List Char) : Decidable (ip.Spells s) :=
  decidable_of_iff _ parse?_eq_some

end IpAddress

/-- The text of a socket address has brackets and a percent sign besides. -/
theorem SocketAddress.isAddressChar (a : SocketAddress) :
    ∀ c ∈ a.chars, IsAddressChar c ∨ c = '[' ∨ c = ']' ∨ c = '%' := by
  cases a with
  | v4 ip port =>
    simp only [chars, List.forall_mem_append, List.forall_mem_cons]
    exact ⟨fun c hc => .inl (ip.isAddressChar c hc), .inl (.inr (.inl rfl)),
      fun c hc => .inl (isAddressChar_toDigits _ c hc)⟩
  | v6 ip port flow scope =>
    have hzone : ∀ c ∈ (if scope = 0 then [] else '%' :: Nat.toDigits 10 scope.toNat),
        IsAddressChar c ∨ c = '[' ∨ c = ']' ∨ c = '%' := by
      split
      · exact List.forall_mem_nil _
      · rw [List.forall_mem_cons]
        exact ⟨.inr (.inr (.inr rfl)), fun c hc => .inl (isAddressChar_toDigits _ c hc)⟩
    simp only [chars, List.forall_mem_append, List.forall_mem_cons]
    exact ⟨.inr (.inl trivial), ⟨fun c hc => .inl (ip.spells_chars.isAddressChar c hc), hzone⟩,
      .inr (.inr (.inl trivial)), .inl (.inr (.inl rfl)),
      fun c hc => .inl (isAddressChar_toDigits _ c hc)⟩

end ProxyTunnel
