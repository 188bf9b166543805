import Mathlib.Data.List.Basic
import ProxyTunnel.Net.Ipv4
import ProxyTunnel.Proofs.Text.Numeral
import ProxyTunnel.Proofs.Text.Split

/-!
# IPv4 addresses have one text

The dotted notation, in front of anything but a further digit, is read back and the rest is left,
and no other text is read as an address: numbers have no leading zeros there (`read?_eq_some`). Cut
at its dots, it falls into the four numbers (`splitAll_chars`).
-/

namespace ProxyTunnel.Ipv4

open Text Text.Numeral Net

variable {r s : List Char}

theorem noDigit_dot (s : List Char) : NoDigit 10 ('.' :: s) := noDigit_cons rfl s

theorem readOctet?_toDigits_append (b : UInt8) (hr : NoDigit 10 r) :
    readOctet? (Nat.toDigits 10 b.toNat ++ r) = some (b, r) := by
  have hlt := b.toNat_lt
  have hlength : (Nat.toDigits 10 b.toNat).length ≤ 3 :=
    (Nat.length_toDigits_le_iff (by decide) (by decide)).mpr (by omega)
  have hzero : ¬((Nat.toDigits 10 b.toNat).head? = some '0' ∧
      1 < (Nat.toDigits 10 b.toNat).length) := by
    rintro ⟨hhead, hlong⟩
    rw [eq_zero_of_head?_toDigits (by decide) (by decide) hhead] at hlong
    simp at hlong
  have haccepted : ¬(Nat.toDigits 10 b.toNat = [] ∨ 3 < (Nat.toDigits 10 b.toNat).length ∨
      ((Nat.toDigits 10 b.toNat).head? = some '0' ∧ 1 < (Nat.toDigits 10 b.toNat).length)) := by
    rintro (h | h | h)
    · exact Nat.toDigits_ne_nil h
    · omega
    · exact hzero h
  rw [readOctet?, digits_toDigits_append (by decide) (by decide) _ hr,
    rest_toDigits_append (by decide) (by decide) _ hr, value_toDigits (by decide) (by decide),
    if_neg haccepted, if_pos (by omega), UInt8.ofNat_toNat]

theorem readOctet?_eq_some {b : UInt8} :
    readOctet? s = some (b, r) ↔ s = Nat.toDigits 10 b.toNat ++ r ∧ NoDigit 10 r := by
  constructor
  · intro h
    simp only [readOctet?, Option.ite_none_left_eq_some, Option.ite_none_right_eq_some,
      Option.some.injEq, Prod.mk.injEq, not_or, not_and, not_lt] at h
    obtain ⟨⟨hne, -, hzero⟩, hmax, rfl, rfl⟩ := h
    refine ⟨?_, noDigit_rest 10 s⟩
    rw [UInt8.toNat_ofNat', Nat.mod_eq_of_lt (by omega),
      toDigits_value hne (fun _ => isDigit_of_mem_digits) hzero, digits_append_rest]
  · rintro ⟨rfl, hr⟩
    exact readOctet?_toDigits_append b hr

/-- The dotted notation is the only text of an address. -/
theorem read?_eq_some {ip : Ipv4} :
    read? s = some (ip, r) ↔ s = ip.chars ++ r ∧ NoDigit 10 r := by
  constructor
  · intro h
    simp only [read?, Option.bind_eq_bind, Option.bind_eq_some_iff, Prod.exists, Option.pure_def,
      Option.some.injEq, Prod.mk.injEq] at h
    obtain ⟨a, s₁, ha, s₂, h₁, b, s₃, hb, s₄, h₂, c, s₅, hc, s₆, h₃, d, s₇, hd, rfl, rfl⟩ := h
    obtain ⟨rfl, -⟩ := readOctet?_eq_some.mp ha
    obtain rfl := eq_cons_of_skip? h₁
    obtain ⟨rfl, -⟩ := readOctet?_eq_some.mp hb
    obtain rfl := eq_cons_of_skip? h₂
    obtain ⟨rfl, -⟩ := readOctet?_eq_some.mp hc
    obtain rfl := eq_cons_of_skip? h₃
    obtain ⟨rfl, hr⟩ := readOctet?_eq_some.mp hd
    exact ⟨by simp [chars], hr⟩
  · rintro ⟨rfl, hr⟩
    simp [read?, chars, readOctet?_toDigits_append, noDigit_dot, skip?_cons_self, hr]

/-- No digit is a dot. -/
theorem ne_dot_of_mem_toDigits (n : Nat) : ∀ c ∈ Nat.toDigits 10 n, decide (c = '.') = false := by
  intro c hc
  refine decide_eq_false ?_
  rintro rfl
  exact absurd (isDigit_of_mem_toDigits (by decide) (by decide : 10 ≤ 16) n '.' hc) (by decide)

/-- Between the dots are the numbers. -/
theorem splitAll_chars (ip : Ipv4) : splitAll (· = '.') ip.chars =
    [Nat.toDigits 10 ip.a.toNat, Nat.toDigits 10 ip.b.toNat, Nat.toDigits 10 ip.c.toNat,
      Nat.toDigits 10 ip.d.toNat] := by
  have hfree (b : UInt8) := ne_dot_of_mem_toDigits b.toNat
  rw [chars, splitAll_append (hfree _) (by decide), splitAll_append (hfree _) (by decide),
    splitAll_append (hfree _) (by decide), splitAll_of_free (hfree _)]

theorem getLast?_chars_ne (ip : Ipv4) : ip.chars.getLast? ≠ some '.' := by
  have hchars : ip.chars = (Nat.toDigits 10 ip.a.toNat ++ '.' :: (Nat.toDigits 10 ip.b.toNat ++
      '.' :: (Nat.toDigits 10 ip.c.toNat ++ ['.']))) ++ Nat.toDigits 10 ip.d.toNat := by
    simp [chars]
  rw [hchars, List.getLast?_append_of_ne_nil _ Nat.toDigits_ne_nil]
  exact fun h => of_decide_eq_false (ne_dot_of_mem_toDigits _ _ (List.mem_of_getLast? h)) rfl

end ProxyTunnel.Ipv4
