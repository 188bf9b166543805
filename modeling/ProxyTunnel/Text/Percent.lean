import ProxyTunnel.Text.Utf8
import ProxyTunnel.Text.Numeral

/-!
# Percent encoding

Bytes that must not stand in a part of a URL are written as a percent sign and two hexadecimal
digits. Which bytes these are is a set of ASCII characters; bytes above ASCII are always written so.
Decoding leaves a percent sign alone that no two digits follow.
-/

namespace ProxyTunnel.Text.Percent

/-- The characters of a byte written with a percent sign, capital digits. -/
def escape (b : UInt8) : List Char :=
  ['%', (Nat.digitChar (b.toNat / 16)).toUpper, (Nat.digitChar (b.toNat % 16)).toUpper]

/-- Writes bytes; `reserved` says which ASCII characters are escaped. -/
def encodeBytes (reserved : Char → Bool) : Bytes → List Char
  | [] => []
  | b :: s =>
    (if b < 0x80 && !reserved (Char.ofNat b.toNat) then [Char.ofNat b.toNat] else escape b) ++
      encodeBytes reserved s

/-- Writes the UTF-8 form of a row of characters. -/
def encode (reserved : Char → Bool) (s : List Char) : List Char :=
  encodeBytes reserved (Utf8.encodeChars s)

/-- The value of a byte as a hexadecimal digit. -/
def hexDigit? (b : UInt8) : Option Nat :=
  if b < 0x80 then Numeral.digit? 16 (Char.ofNat b.toNat) else none

/-- Reads escapes back. -/
def decode : Bytes → Bytes
  | [] => []
  | a :: s =>
    if a = 0x25 then
      match s with
      | b :: c :: t =>
        match hexDigit? b, hexDigit? c with
        | some x, some y => UInt8.ofNat (16 * x + y) :: decode t
        | _, _ => a :: decode (b :: c :: t)
      | [b] => [a, b]
      | [] => [a]
    else a :: decode s

/-- Control characters. -/
def isControl (c : Char) : Bool := c.toNat < 0x20 || c.toNat = 0x7F

end ProxyTunnel.Text.Percent
