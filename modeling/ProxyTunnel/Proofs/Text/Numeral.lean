import Mathlib.Data.List.Induction
import Mathlib.Tactic.IntervalCases
import ProxyTunnel.Text.Numeral

/-!
# Numerals are read as they are written

A number in base ten or sixteen, written without leading zeros and followed by something that is no
digit, is read back as itself, and what follows is left:

* `digits_append`, `rest_append`: where the digits of a text end;
* `toDigits_induction`: the digits of a number, from the first one on;
* `value_toDigits`: the value of the digits of a number;
* `toDigits_value`: conversely, decimal digits without a zero in front are those of their value;
* `digits_toDigits_append`, `rest_toDigits_append`: a number in front of a text;
* `port?_toDigits`: port numbers as whole texts.
-/

namespace ProxyTunnel.Text.Numeral

variable {base : Nat}

/-- The text starts with no digit of the base. -/
def NoDigit (base : Nat) (s : List Char) : Prop := ∀ c ∈ s.head?, isDigit base c = false

theorem noDigit_nil (base : Nat) : NoDigit base [] := nofun

theorem noDigit_cons {c : Char} (h : isDigit base c = false) (s : List Char) :
    NoDigit base (c :: s) := by
  intro x hx
  cases hx
  exact h

theorem noDigit_rest (base : Nat) (s : List Char) : NoDigit base (rest base s) := by
  intro c hc
  have h := List.head?_dropWhile_not (isDigit base) s
  rw [rest] at hc
  rw [Option.mem_def.mp hc] at h
  simpa using h

section

variable {ds s : List Char}

theorem digits_append (hds : ∀ c ∈ ds, isDigit base c = true) (hs : NoDigit base s) :
    digits base (ds ++ s) = ds := by
  rw [digits, List.takeWhile_append_of_pos hds]
  cases s with
  | nil => simp
  | cons c s => simp [hs c rfl]

theorem rest_append (hds : ∀ c ∈ ds, isDigit base c = true) (hs : NoDigit base s) :
    rest base (ds ++ s) = s := by
  rw [rest, List.dropWhile_append_of_pos hds]
  cases s with
  | nil => rfl
  | cons c s => simp [hs c rfl]

end

theorem digits_of_noDigit {s : List Char} (hs : NoDigit base s) : digits base s = [] :=
  digits_append (List.forall_mem_nil _) hs

/-! ## Digits of numbers -/

theorem digit?_digitChar (hb : base ≤ 16) {d : Nat} (hd : d < base) :
    digit? base (Nat.digitChar d) = some d := by
  have hd' : d < 16 := by omega
  interval_cases d <;> simp [digit?, Nat.digitChar, hd]

/-- What holds of single digits, and still holds when a digit is put behind a number other than
zero, holds of the digits of every number. -/
theorem toDigits_induction {P : Nat → List Char → Prop} (h₁ : 1 < base)
    (single : ∀ d < base, P d [Nat.digitChar d])
    (more : ∀ n d, n ≠ 0 → d < base → P n (Nat.toDigits base n) →
      P (base * n + d) (Nat.toDigits base n ++ [Nat.digitChar d])) (n : Nat) :
    P n (Nat.toDigits base n) := by
  induction n using Nat.strongRecOn with
  | ind n ih =>
    rw [Nat.toDigits_eq_if h₁]
    split
    · rename_i hn
      exact single n hn
    · rename_i hn
      have hpos : n / base ≠ 0 := by
        rw [Ne, Nat.div_eq_zero_iff]
        omega
      have hlt : n / base < n := Nat.div_lt_self (by omega) h₁
      have := more _ _ hpos (Nat.mod_lt n (by omega)) (ih _ hlt)
      rwa [Nat.div_add_mod n base] at this

theorem value_append (ds : List Char) (c : Char) :
    value base (ds ++ [c]) = base * value base ds + (digit? base c).getD 0 := by
  simp [value]

theorem digit?_lt {c : Char} {d : Nat} (h : digit? base c = some d) : d < base := by
  simp only [digit?, Option.ite_none_right_eq_some, Option.some.injEq] at h
  obtain ⟨hlt, rfl⟩ := h
  exact hlt

theorem value_lt (hb : 0 < base) (ds : List Char) : value base ds < Nat.pow base ds.length := by
  induction ds using List.reverseRecOn with
  | nil => exact Nat.one_pos
  | append_singleton ds c ih =>
    have hd : (digit? base c).getD 0 < base := by
      cases h : digit? base c with
      | none => exact hb
      | some d => exact digit?_lt h
    rw [value_append, List.length_append, List.length_singleton]
    calc base * value base ds + (digit? base c).getD 0
        < base * value base ds + base := Nat.add_lt_add_left hd _
      _ = (value base ds + 1) * base := by rw [Nat.add_mul, Nat.one_mul, Nat.mul_comm]
      _ ≤ Nat.pow base ds.length * base := Nat.mul_le_mul_right _ ih

theorem value_toDigits (h₁ : 1 < base) (hb : base ≤ 16) (n : Nat) :
    value base (Nat.toDigits base n) = n := by
  refine toDigits_induction (P := fun n ds => value base ds = n) h₁ (fun d hd => ?_)
    (fun n d _ hd ih => ?_) n
  · simp [value, digit?_digitChar hb hd]
  · rw [value_append, ih, digit?_digitChar hb hd, Option.getD_some]

theorem isDigit_of_mem_toDigits (h₁ : 1 < base) (hb : base ≤ 16) (n : Nat) :
    ∀ c ∈ Nat.toDigits base n, isDigit base c = true := by
  have hdigit (d : Nat) (hd : d < base) : ∀ c ∈ [Nat.digitChar d], isDigit base c = true := by
    intro c hc
    rw [List.mem_singleton.mp hc, isDigit, digit?_digitChar hb hd]
    rfl
  refine toDigits_induction (P := fun _ ds => ∀ c ∈ ds, isDigit base c = true) h₁ hdigit
    (fun n d _ hd ih => ?_) n
  exact List.forall_mem_append.mpr ⟨ih, hdigit d hd⟩

/-- Only zero is written with a zero in front. -/
theorem eq_zero_of_head?_toDigits (h₁ : 1 < base) (hb : base ≤ 16) {n : Nat}
    (h : (Nat.toDigits base n).head? = some '0') : n = 0 := by
  refine toDigits_induction (P := fun n ds => ds.head? = some '0' → n = 0) h₁ (fun d hd h => ?_)
    (fun n d hn hd ih h => ?_) n h
  · have hdigit := digit?_digitChar hb hd
    have hzero : digit? base '0' = some 0 := digit?_digitChar (d := 0) hb (by omega)
    rw [Option.some.inj h, hzero] at hdigit
    exact (Option.some.inj hdigit).symm
  · rw [List.head?_append, Option.or_eq_some_iff] at h
    rcases h with h | ⟨h, -⟩
    · exact absurd (ih h) hn
    · exact absurd (List.head?_eq_none_iff.mp h) Nat.toDigits_ne_nil

theorem eq_digitChar_of_digit? {c : Char} {d : Nat} (h : digit? 10 c = some d) :
    d < 10 ∧ c = Nat.digitChar d := by
  simp only [digit?, Option.ite_none_right_eq_some, Option.some.injEq] at h
  have hc : d < 10 ∧ c.toNat = 48 + d := by grind
  obtain ⟨hd, hc⟩ := hc
  refine ⟨hd, Char.toNat_inj.mp (hc.trans ?_)⟩
  interval_cases d <;> rfl

/-- A row of decimal digits with no zero in front is how its value is written. -/
theorem toDigits_value {ds : List Char} (hne : ds ≠ []) (hds : ∀ c ∈ ds, isDigit 10 c = true)
    (hzero : ds.head? = some '0' → ds.length ≤ 1) : Nat.toDigits 10 (value 10 ds) = ds := by
  induction ds using List.reverseRecOn with
  | nil => exact absurd rfl hne
  | append_singleton ds c ih =>
    obtain ⟨d, hd⟩ := Option.isSome_iff_exists.mp (hds c (by simp))
    obtain ⟨hlt, hc⟩ := eq_digitChar_of_digit? hd
    rw [value_append, hd, Option.getD_some, hc]
    rcases ds with _ | ⟨a, ds⟩
    · rw [show 10 * value 10 [] + d = d from Nat.zero_add d]
      exact Nat.toDigits_of_lt_base hlt
    · have hhead : a ≠ '0' := by
        rintro rfl
        have := hzero rfl
        simp at this
      have ih := ih (List.cons_ne_nil a ds) (fun x hx => hds x (List.mem_append_left _ hx))
        (fun h => absurd (Option.some.inj h) hhead)
      -- the digits in front have another value than zero, or they would be a zero
      have hpos : 0 < value 10 (a :: ds) := by
        refine Nat.pos_of_ne_zero fun h => ?_
        rw [h] at ih
        exact hhead (List.cons.inj ih).1.symm
      rw [← Nat.toDigits_append_toDigits (by decide) hpos hlt, ih, Nat.toDigits_of_lt_base hlt]

section

variable {s : List Char}

theorem digits_toDigits_append (h₁ : 1 < base) (hb : base ≤ 16) (n : Nat) (hs : NoDigit base s) :
    digits base (Nat.toDigits base n ++ s) = Nat.toDigits base n :=
  digits_append (isDigit_of_mem_toDigits h₁ hb n) hs

theorem rest_toDigits_append (h₁ : 1 < base) (hb : base ≤ 16) (n : Nat) (hs : NoDigit base s) :
    rest base (Nat.toDigits base n ++ s) = s :=
  rest_append (isDigit_of_mem_toDigits h₁ hb n) hs

end

/-- A whole text of digits is a number without a sign. -/
theorem unsigned?_of_digits {ds : List Char} (hne : ds ≠ [])
    (hds : ∀ c ∈ ds, isDigit 10 c = true) (max : Nat) :
    unsigned? max ds = if value 10 ds ≤ max then some (value 10 ds) else none := by
  have hnumeral : ¬(ds.isEmpty || !ds.all (isDigit 10)) = true := by
    simpa [hne] using hds
  rw [unsigned?]
  · exact if_neg hnumeral
  · rintro t rfl
    cases hds '+' List.mem_cons_self

/-- A port number is read back. -/
theorem port?_toDigits (port : UInt16) : port? (Nat.toDigits 10 port.toNat) = some port := by
  have hlt := port.toNat_lt
  have hds := isDigit_of_mem_toDigits (by decide) (by decide : 10 ≤ 16) port.toNat
  rw [port?, unsigned?_of_digits Nat.toDigits_ne_nil hds, value_toDigits (by decide) (by decide),
    if_pos (by omega), Option.map_some, UInt16.ofNat_toNat]

end ProxyTunnel.Text.Numeral
