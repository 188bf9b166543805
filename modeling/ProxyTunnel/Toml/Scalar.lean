import ProxyTunnel.Document
import ProxyTunnel.Text.Numeral
import ProxyTunnel.Text.Split

/-!
# Numbers, truth values and times in TOML

The values that are written without quotes or brackets. Of numbers with a fraction and of dates and
times only the form is checked, no setting takes them; integers and their prefixes are read in full.
-/

namespace ProxyTunnel.Toml

open Text

/-- The number of a row of digits with single underscores between them. -/
def readDigits? (base : Nat) (s : List Char) : Option Nat :=
  let groups := splitAll (· = '_') s
  if groups.all fun g => g ≠ [] && g.all (Numeral.isDigit base) then
    some (Numeral.value base groups.flatten)
  else none

/-- A text without sign, and whether the sign was a minus. -/
def splitSign (s : List Char) : Bool × List Char :=
  match s with
  | '-' :: s => (true, s)
  | '+' :: s => (false, s)
  | _ => (false, s)

/-- The number of decimal digits without leading zeros. -/
def readWhole? (s : List Char) : Option Nat :=
  if s.head? = some '0' ∧ s ≠ ['0'] then none else readDigits? 10 s

/-- Reads an integer of at most 128 bits. -/
def readInteger? (s : List Char) : Option Int := do
  let n : Int ← match s with
    | '0' :: 'x' :: s => (readDigits? 16 s).map Int.ofNat
    | '0' :: 'o' :: s => (readDigits? 8 s).map Int.ofNat
    | '0' :: 'b' :: s => (readDigits? 2 s).map Int.ofNat
    | _ =>
      let (isNegative, s) := splitSign s
      (readWhole? s).map fun n => if isNegative then -Int.ofNat n else Int.ofNat n
  if Numeral.fits 128 n then some n else none

/-- Splits a text at the first of some characters. -/
def splitFirst (isSeparator : Char → Bool) (s : List Char) : List Char × Option (List Char) :=
  match s.dropWhile fun c => !isSeparator c with
  | [] => (s, none)
  | _ :: t => (s.takeWhile fun c => !isSeparator c, some t)

/-- Whether `m * 10 ^ e` is too large for a number with a fraction. -/
def isTooLarge (m : Nat) (e : Int) : Bool :=
  if m = 0 then false
  else
    let size : Int := (Nat.toDigits 10 m).length
    if size + e < 300 then false
    else if 400 < size + e then true
    else
      let limit := Nat.pow 2 1024 - Nat.pow 2 970
      if 0 ≤ e then limit ≤ m * Nat.pow 10 e.toNat else limit * Nat.pow 10 (-e).toNat ≤ m

/-- Whether a text is a number with a fraction or an exponent. -/
def isFraction (s : List Char) : Bool :=
  let (_, s) := splitSign s
  if s = "inf".toList || s = "nan".toList then true
  else
    let (mantissa, exponent) := splitFirst (fun c => c = 'e' || c = 'E') s
    let (whole, fraction) := splitFirst (· = '.') mantissa
    let exponent? : Option Int := match exponent with
      | none => some 0
      | some e =>
        let (isNegative, e) := splitSign e
        (readDigits? 10 e).map fun n => if isNegative then -Int.ofNat n else Int.ofNat n
    let digits := (fraction.getD []).filter (· ≠ '_')
    match readWhole? whole, exponent? with
    | some w, some e =>
      (fraction.isSome || exponent.isSome) && fraction.all (fun f => (readDigits? 10 f).isSome) &&
        !isTooLarge (w * Nat.pow 10 digits.length + Numeral.value 10 digits) (e - digits.length)
    | _, _ => false

/-- The number of exactly two digits. -/
def twoDigits? (a b : Char) : Option Nat := do
  some (10 * (← Numeral.digit? 10 a) + (← Numeral.digit? 10 b))

/-- The number of days of a month; none if there is no such month. -/
def monthLength? (year month : Nat) : Option Nat :=
  if month = 2 then
    some (if year % 4 = 0 ∧ (year % 100 ≠ 0 ∨ year % 400 = 0) then 29 else 28)
  else if month = 4 ∨ month = 6 ∨ month = 9 ∨ month = 11 then some 30
  else if 1 ≤ month ∧ month ≤ 12 then some 31
  else none

/-- What follows a date at the front of a text. -/
def skipDate? (s : List Char) : Option (List Char) :=
  match s with
  | y₁ :: y₂ :: y₃ :: y₄ :: '-' :: m₁ :: m₂ :: '-' :: d₁ :: d₂ :: s => do
    let year := 100 * (← twoDigits? y₁ y₂) + (← twoDigits? y₃ y₄)
    let days ← monthLength? year (← twoDigits? m₁ m₂)
    let day ← twoDigits? d₁ d₂
    if 1 ≤ day ∧ day ≤ days then some s else none
  | _ => none

/-- What follows a time of the day at the front of a text. Seconds may be left out, and only they
may have a fraction. -/
def skipTime? (s : List Char) : Option (List Char) :=
  match s with
  | h₁ :: h₂ :: ':' :: m₁ :: m₂ :: s => do
    let hour ← twoDigits? h₁ h₂
    let minute ← twoDigits? m₁ m₂
    if 24 ≤ hour ∨ 60 ≤ minute then none
    else match s with
      | ':' :: s₁ :: s₂ :: s =>
        if 60 < (← twoDigits? s₁ s₂) then none
        else match s with
          | '.' :: s =>
            if (Numeral.digits 10 s) = [] then none else some (Numeral.rest 10 s)
          | _ => some s
      | ':' :: _ => none
      | _ => some s
  | _ => none

/-- Whether a text is nothing, or a distance from the time of Greenwich. -/
def isOffset (s : List Char) : Bool :=
  match s with
  | [] | ['Z'] | ['z'] => true
  | [sign, h₁, h₂, ':', m₁, m₂] =>
    (sign = '+' || sign = '-') && (twoDigits? h₁ h₂).any (· < 24) &&
      (twoDigits? m₁ m₂).any (· < 60)
  | _ => false

/-- Whether a text is a date, a time of the day, or both. -/
def isMoment (s : List Char) : Bool :=
  match skipDate? s with
  | some [] => true
  | some (t :: s) => (t = 'T' || t = 't' || t = ' ') && (skipTime? s).any isOffset
  | none => skipTime? s = some []

/-- The value of a word. -/
def scalar? (s : List Char) : Option Document :=
  if s = "true".toList then some (.boolean true)
  else if s = "false".toList then some (.boolean false)
  else match readInteger? s with
    | some n => some (.integer n)
    | none => if isFraction s || isMoment s then some .other else none

/-- Whether a character ends a word. -/
def isWordEnd (c : Char) : Bool := " \t\r\n,]\x7d#".toList.contains c

/-- Reads a word and gives its value. A date and a time may have a space between them. -/
def readScalar? (s : List Char) : Option (Document × List Char) :=
  let word := s.takeWhile fun c => !isWordEnd c
  let rest := s.dropWhile fun c => !isWordEnd c
  match skipDate? word, rest with
  | some [], ' ' :: d :: more =>
    if Numeral.isDigit 10 d then
      let time := (d :: more).takeWhile fun c => !isWordEnd c
      (scalar? (word ++ ' ' :: time)).map (·, (d :: more).drop time.length)
    else (scalar? word).map (·, rest)
  | _, _ => (scalar? word).map (·, rest)

end ProxyTunnel.Toml
