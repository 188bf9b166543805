import ProxyTunnel.Text.Base64
import ProxyTunnel.Proofs.Text.Utf8

/-!
# Base64 there and back

A reader for the other side (`decode?`) takes groups of four characters, the last of which may be
filled up, and then the bits that stand for nothing must be zero. It reads back what is written
(`decode?_encode`), so different bytes are never written alike (`encode_injective`). Nothing but the
alphabet and the fill character is ever written (`mem_encode`).
-/

namespace ProxyTunnel.Text.Base64

/-- The value of a character of the alphabet. -/
def value? (c : Char) : Option Nat :=
  if 'A' ≤ c ∧ c ≤ 'Z' then some (c.toNat - 65)
  else if 'a' ≤ c ∧ c ≤ 'z' then some (c.toNat - 71)
  else if '0' ≤ c ∧ c ≤ '9' then some (c.toNat + 4)
  else if c = '+' then some 62
  else if c = '/' then some 63
  else none

/-- The byte of a last group that ends with two fill characters. -/
def lastOne? (x y : Nat) : Option Bytes :=
  if y % 16 = 0 then some [UInt8.ofNat (x * 4 + y / 16)] else none

/-- The bytes of a last group that ends with one fill character. -/
def lastTwo? (x y z : Nat) : Option Bytes :=
  if z % 4 = 0 then some [UInt8.ofNat (x * 4 + y / 16), UInt8.ofNat (y % 16 * 16 + z / 4)] else none

/-- Reads bytes. -/
def decode? : List Char → Option Bytes
  | [] => some []
  | a :: b :: c :: d :: s => do
    let x ← value? a
    let y ← value? b
    if s = [] ∧ d = '=' then
      if c = '=' then lastOne? x y
      else lastTwo? x y (← value? c)
    else
      let z ← value? c
      let w ← value? d
      let bs ← decode? s
      some (UInt8.ofNat (x * 4 + y / 16) :: UInt8.ofNat (y % 16 * 16 + z / 4) ::
        UInt8.ofNat (z % 4 * 64 + w) :: bs)
  | _ => none

theorem value?_letter {n : Nat} (h : n < 64) : value? (letter n) = some n := by
  have hall : ∀ n < 64, value? (letter n) = some n := by decide
  exact hall n h

theorem letter_ne_fill {n : Nat} (h : n < 64) : letter n ≠ '=' := by
  intro hfill
  have := value?_letter h
  rw [hfill] at this
  cases this

/-- A last group with two fill characters is read. -/
theorem decode?_one {x y : Nat} (hx : x < 64) (hy : y < 64) :
    decode? [letter x, letter y, '=', '='] = lastOne? x y := by
  simp only [decode?, value?_letter hx, value?_letter hy, Option.bind_eq_bind, Option.bind_some,
    and_self, if_true]

/-- A last group with one fill character is read. -/
theorem decode?_two {x y z : Nat} (hx : x < 64) (hy : y < 64) (hz : z < 64) :
    decode? [letter x, letter y, letter z, '='] = lastTwo? x y z := by
  simp only [decode?, value?_letter hx, value?_letter hy, value?_letter hz, Option.bind_eq_bind,
    Option.bind_some, and_self, if_true, letter_ne_fill hz, if_false]

/-- A group of four letters is read. -/
theorem decode?_three {x y z w : Nat} (hx : x < 64) (hy : y < 64) (hz : z < 64) (hw : w < 64)
    (s : List Char) :
    decode? (letter x :: letter y :: letter z :: letter w :: s) = (decode? s).map fun bs =>
      UInt8.ofNat (x * 4 + y / 16) :: UInt8.ofNat (y % 16 * 16 + z / 4) ::
        UInt8.ofNat (z % 4 * 64 + w) :: bs := by
  simp only [decode?, value?_letter hx, value?_letter hy, value?_letter hz, value?_letter hw,
    Option.bind_eq_bind, Option.bind_some, letter_ne_fill hw, and_false, if_false]
  exact Option.map_eq_bind.symm

/-- What is written is read back. -/
theorem decode?_encode (bs : Bytes) : decode? (encode bs) = some bs := by
  fun_induction encode bs with
  | case1 => rfl
  | case2 a =>
    have ha := a.toNat_lt
    rw [decode?_one (by omega) (by omega), lastOne?, if_pos (by omega),
      Utf8.ofNat_eq (b := a) (by omega)]
  | case3 a b =>
    have ha := a.toNat_lt
    have hb := b.toNat_lt
    rw [decode?_two (by omega) (by omega) (by omega), lastTwo?, if_pos (by omega),
      Utf8.ofNat_eq (b := a) (by omega), Utf8.ofNat_eq (b := b) (by omega)]
  | case4 a b c s ih =>
    have ha := a.toNat_lt
    have hb := b.toNat_lt
    have hc := c.toNat_lt
    rw [decode?_three (by omega) (by omega) (by omega) (by omega), ih, Option.map_some,
      Utf8.ofNat_eq (b := a) (by omega), Utf8.ofNat_eq (b := b) (by omega),
      Utf8.ofNat_eq (b := c) (by omega)]

/-- Different bytes are written differently. -/
theorem encode_injective {bs bs' : Bytes} (h : encode bs = encode bs') : bs = bs' := by
  have hread := decode?_encode bs
  rw [h, decode?_encode] at hread
  exact (Option.some.inj hread).symm

/-- Only the alphabet and the fill character are written. -/
theorem mem_encode (bs : Bytes) : ∀ c ∈ encode bs, c = '=' ∨ ∃ n < 64, c = letter n := by
  fun_induction encode bs with
  | case1 => exact List.forall_mem_nil _
  | case2 a =>
    have ha := a.toNat_lt
    simp only [List.forall_mem_cons]
    exact ⟨.inr ⟨_, by omega, rfl⟩, .inr ⟨_, by omega, rfl⟩, .inl trivial, .inl trivial,
      List.forall_mem_nil _⟩
  | case3 a b =>
    have ha := a.toNat_lt
    have hb := b.toNat_lt
    simp only [List.forall_mem_cons]
    exact ⟨.inr ⟨_, by omega, rfl⟩, .inr ⟨_, by omega, rfl⟩, .inr ⟨_, by omega, rfl⟩,
      .inl trivial, List.forall_mem_nil _⟩
  | case4 a b c s ih =>
    have ha := a.toNat_lt
    have hb := b.toNat_lt
    have hc := c.toNat_lt
    simp only [List.forall_mem_cons]
    exact ⟨.inr ⟨_, by omega, rfl⟩, .inr ⟨_, by omega, rfl⟩, .inr ⟨_, by omega, rfl⟩,
      .inr ⟨_, by omega, rfl⟩, ih⟩

end ProxyTunnel.Text.Base64
