/-!
# Numerals

Reading and writing natural numbers in base ten and sixteen. `Numeral.value` reads the digits that
`Numeral.digits` splits off; the digits and the rest make up the text again (`digits_append_rest`),
and the rest starts with no digit.
-/

namespace ProxyTunnel.Text.Numeral

/-- The value of a digit in the bases up to sixteen; letters count in either case. -/
def digit? (base : Nat) (c : Char) : Option Nat :=
  let n := c.toNat
  let v :=
    if 48 ≤ n ∧ n ≤ 57 then n - 48
    else if 97 ≤ n ∧ n ≤ 102 then n - 87
    else if 65 ≤ n ∧ n ≤ 70 then n - 55
    else base
  if v < base then some v else none

/-- Whether a character is a digit of the base. -/
def isDigit (base : Nat) (c : Char) : Bool := (digit? base c).isSome

/-- The digits a text starts with. -/
def digits (base : Nat) (s : List Char) : List Char := s.takeWhile (isDigit base)

/-- What follows the digits a text starts with. -/
def rest (base : Nat) (s : List Char) : List Char := s.dropWhile (isDigit base)

/-- The number that a row of digits stands for; a character that is no digit counts as zero. -/
def value (base : Nat) (s : List Char) : Nat :=
  s.foldl (fun n c => base * n + (digit? base c).getD 0) 0

theorem digits_append_rest (base : Nat) (s : List Char) : digits base s ++ rest base s = s :=
  List.takeWhile_append_dropWhile

theorem isDigit_of_mem_digits {base : Nat} {s : List Char} {c : Char} (h : c ∈ digits base s) :
    isDigit base c = true := by
  induction s with
  | nil => simp [digits] at h
  | cons a s ih =>
    by_cases ha : isDigit base a = true
    · simp only [digits, List.takeWhile_cons, ha, if_true, List.mem_cons] at h
      rcases h with rfl | h
      · exact ha
      · exact ih h
    · simp [digits, ha] at h

/-- A number in base ten, without leading zeros. -/
def decimal (n : Nat) : String := String.ofList (Nat.toDigits 10 n)

/-- A number in base sixteen with small letters, without leading zeros. -/
def hex (n : Nat) : String := String.ofList (Nat.toDigits 16 n)

/-- A byte as two hexadecimal digits behind `0x`. -/
def hexByte (b : UInt8) : String :=
  "0x" ++ String.ofList [Nat.digitChar (b.toNat / 16), Nat.digitChar (b.toNat % 16)]

/-- Reads a whole text as an unsigned number of at most `max`: an optional plus sign and at least
one decimal digit, leading zeros allowed. -/
def unsigned? (max : Nat) (s : List Char) : Option Nat :=
  let ds := match s with
    | '+' :: t => t
    | _ => s
  if ds.isEmpty || !ds.all (isDigit 10) then none
  else
    let n := value 10 ds
    if n ≤ max then some n else none

/-- Whether an integer fits into so many bits, with or without sign. -/
def fits (bits : Nat) : Int → Bool
  | .ofNat n => n < Nat.pow 2 bits
  | .negSucc n => n < Nat.pow 2 (bits - 1)

/-- Reads a whole text as a port number. -/
def port? (s : List Char) : Option UInt16 := (unsigned? 65535 s).map UInt16.ofNat

end ProxyTunnel.Text.Numeral
