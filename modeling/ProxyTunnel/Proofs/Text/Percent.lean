import Mathlib.Tactic.IntervalCases
import ProxyTunnel.Text.Percent
import ProxyTunnel.Proofs.Text.Utf8
import ProxyTunnel.Proofs.Text.Numeral

/-!
# Percent encoding is read back

Whatever set of characters is escaped, what was encoded is decoded to the same bytes, if only the
percent sign is in the set (`decode_encode`). An encoded text is ASCII, of characters that are not
in the set and of escapes (`mem_encode`), and encoding it once more by a set without any of those
changes nothing (`encode_of_free`).
-/

namespace ProxyTunnel.Text.Percent

open Utf8

variable {reserved : Char → Bool}

/-- The hexadecimal digits of escapes. -/
def upperDigit (d : Nat) : Char := (Nat.digitChar d).toUpper

theorem escape_eq (b : UInt8) :
    escape b = ['%', upperDigit (b.toNat / 16), upperDigit (b.toNat % 16)] := rfl

theorem encodeChars_cons_of_ascii {b : UInt8} (hb : b < 0x80) (s : List Char) :
    encodeChars (Char.ofNat b.toNat :: s) = b :: encodeChars s := by
  rw [encodeChars, List.flatMap_cons, utf8EncodeChar_one hb]
  rfl

theorem exists_byte {c : Char} (hc : c.toNat < 0x80) :
    ∃ b : UInt8, b < 0x80 ∧ c = Char.ofNat b.toNat := by
  have hb : (UInt8.ofNat c.toNat).toNat = c.toNat := by
    rw [UInt8.toNat_ofNat', Nat.mod_eq_of_lt (by omega)]
  refine ⟨UInt8.ofNat c.toNat, UInt8.lt_iff_toNat_lt.mpr ?_, ?_⟩
  · rw [hb]
    exact hc
  · rw [hb, Char.ofNat_toNat]

/-- A digit is one byte, and is read as what it stands for. -/
theorem encodeChars_upperDigit {d : Nat} (hd : d < 16) (s : List Char) :
    ∃ b, encodeChars (upperDigit d :: s) = b :: encodeChars s ∧ hexDigit? b = some d := by
  refine ⟨UInt8.ofNat (upperDigit d).toNat, ?_⟩
  interval_cases d <;> exact ⟨rfl, by decide⟩

theorem decode_escape (b : UInt8) (s : List Char) :
    decode (encodeChars (escape b ++ s)) = b :: decode (encodeChars s) := by
  have hlt := b.toNat_lt
  obtain ⟨low, hlow, hl⟩ := encodeChars_upperDigit (Nat.mod_lt b.toNat (by decide : 16 > 0)) s
  obtain ⟨high, hhigh, hh⟩ := encodeChars_upperDigit (d := b.toNat / 16) (by omega)
    (upperDigit (b.toNat % 16) :: s)
  have hbytes : encodeChars (escape b ++ s) = 0x25 :: high :: low :: encodeChars s := by
    rw [escape_eq, ← hlow, ← hhigh]
    rfl
  rw [hbytes, decode]
  simp only [if_pos, hh, hl]
  rw [Nat.div_add_mod, UInt8.ofNat_toNat]

theorem decode_cons_of_ne {b : UInt8} (hb : b ≠ 0x25) (s : Bytes) :
    decode (b :: s) = b :: decode s := by
  rw [decode.eq_def]
  exact if_neg hb

/-- Bytes without a percent sign stand for themselves. -/
theorem decode_of_not_mem {bs : Bytes} (h : 0x25 ∉ bs) : decode bs = bs := by
  induction bs with
  | nil => rfl
  | cons b bs ih =>
    rw [List.mem_cons, not_or] at h
    rw [decode_cons_of_ne (Ne.symm h.1), ih h.2]

theorem decode_encodeBytes (hr : reserved '%' = true) (bs : Bytes) :
    decode (encodeChars (encodeBytes reserved bs)) = bs := by
  induction bs with
  | nil => rfl
  | cons b bs ih =>
    rw [encodeBytes]
    split
    · rename_i h
      obtain ⟨hascii, hfree⟩ : b < 0x80 ∧ reserved (Char.ofNat b.toNat) = false := by
        simpa using h
      have hne : b ≠ 0x25 := by
        rintro rfl
        exact Bool.false_ne_true (hfree.symm.trans hr)
      rw [List.singleton_append, encodeChars_cons_of_ascii hascii, decode_cons_of_ne hne, ih]
    · rw [decode_escape, ih]

theorem decode_encode (hr : reserved '%' = true) (s : List Char) :
    decode (encodeChars (encode reserved s)) = encodeChars s := decode_encodeBytes hr _

/-! ## Which characters there are -/

/-- An ASCII character that is not escaped. -/
def IsFree (reserved : Char → Bool) (c : Char) : Prop := c.toNat < 0x80 ∧ reserved c = false

theorem mem_encodeBytes {c : Char} {bs : Bytes} (h : c ∈ encodeBytes reserved bs) :
    IsFree reserved c ∨ c = '%' ∨ ∃ d < 16, c = upperDigit d := by
  induction bs with
  | nil => cases h
  | cons b bs ih =>
    rw [encodeBytes, List.mem_append] at h
    rcases h with h | h
    · split at h
      · rename_i hfree
        obtain ⟨hascii, hfree⟩ : b < 0x80 ∧ reserved (Char.ofNat b.toNat) = false := by
          simpa using hfree
        rw [List.mem_singleton.mp h]
        refine .inl ⟨?_, hfree⟩
        have hlt : b.toNat < 0x80 := UInt8.lt_iff_toNat_lt.mp hascii
        exact Nat.lt_of_le_of_lt (Nat.le_of_eq (toNat_val_ofNat (.inl (by omega)))) hlt
      · have hlt := b.toNat_lt
        simp only [escape_eq, List.mem_cons, List.not_mem_nil, or_false] at h
        rcases h with rfl | rfl | rfl
        · exact .inr (.inl rfl)
        · exact .inr (.inr ⟨_, by omega, rfl⟩)
        · exact .inr (.inr ⟨_, by omega, rfl⟩)
    · exact ih h

theorem mem_encode {c : Char} {s : List Char} (h : c ∈ encode reserved s) :
    IsFree reserved c ∨ c = '%' ∨ ∃ d < 16, c = upperDigit d := mem_encodeBytes h

/-- Where nothing is to be escaped, nothing changes. -/
theorem encode_of_free {s : List Char} (h : ∀ c ∈ s, IsFree reserved c) :
    encode reserved s = s := by
  induction s with
  | nil => rfl
  | cons c s ih =>
    obtain ⟨⟨hascii, hfree⟩, hs⟩ := List.forall_mem_cons.mp h
    obtain ⟨b, hb, rfl⟩ := exists_byte hascii
    have hplain : (b < 0x80 && !reserved (Char.ofNat b.toNat)) = true := by simp [hb, hfree]
    rw [encode, encodeChars_cons_of_ascii hb, encodeBytes, if_pos hplain]
    exact congrArg _ (ih hs)

theorem encodeBytes_ne_nil {bs : Bytes} (h : bs ≠ []) : encodeBytes reserved bs ≠ [] := by
  cases bs with
  | nil => exact absurd rfl h
  | cons b bs =>
    rw [encodeBytes]
    split
    · exact List.cons_ne_nil _ _
    · exact List.cons_ne_nil _ _

theorem encode_ne_nil {s : List Char} (h : s ≠ []) : encode reserved s ≠ [] := by
  refine encodeBytes_ne_nil fun hnil => h ?_
  exact encodeChars_injective (hnil.trans rfl)

end ProxyTunnel.Text.Percent
