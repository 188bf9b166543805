import ProxyTunnel.Text.Utf8

/-!
# Base64

Three bytes as four characters of an alphabet of 64, the last group filled up with `=`.
-/

namespace ProxyTunnel.Text.Base64

/-- The character of a value below 64. -/
def letter (n : Nat) : Char :=
  if n < 26 then Char.ofNat (65 + n)
  else if n < 52 then Char.ofNat (71 + n)
  else if n < 62 then Char.ofNat (n - 4)
  else if n = 62 then '+'
  else '/'

/-- Writes bytes. -/
def encode : Bytes → List Char
  | [] => []
  | [a] => [letter (a.toNat / 4), letter (a.toNat % 4 * 16), '=', '=']
  | [a, b] =>
    [letter (a.toNat / 4), letter (a.toNat % 4 * 16 + b.toNat / 16), letter (b.toNat % 16 * 4), '=']
  | a :: b :: c :: s =>
    letter (a.toNat / 4) :: letter (a.toNat % 4 * 16 + b.toNat / 16) ::
      letter (b.toNat % 16 * 4 + c.toNat / 64) :: letter (c.toNat % 64) :: encode s

/-- The length of the written form. -/
theorem length_encode (s : Bytes) : (encode s).length = (s.length + 2) / 3 * 4 := by
  fun_induction encode s with
  | case1 => rfl
  | case2 a => simp only [List.length_cons, List.length_nil]
  | case3 a b => simp only [List.length_cons, List.length_nil]
  | case4 a b c s ih =>
    simp only [List.length_cons, ih]
    omega

theorem toNat_letter (n : Nat) : (letter n).toNat < 128 := by
  have hascii : ∀ k < 128, (Char.ofNat k).toNat < 128 := by decide
  unfold letter
  split
  · exact hascii _ (by omega)
  split
  · exact hascii _ (by omega)
  split
  · exact hascii _ (by omega)
  split <;> decide

/-- Only ASCII characters are written. -/
theorem ascii_encode (bs : Bytes) : ∀ c ∈ encode bs, c.toNat < 128 := by
  fun_induction encode bs with
  | case1 => simp
  | case2 a => simp [toNat_letter]
  | case3 a b => simp [toNat_letter]
  | case4 a b c s ih =>
    simp only [List.mem_cons, forall_eq_or_imp, toNat_letter, true_and]
    exact ih

end ProxyTunnel.Text.Base64
