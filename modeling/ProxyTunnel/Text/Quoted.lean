import ProxyTunnel.Unicode.Printable

/-!
# Quoted text

A text between quotation marks for diagnostics. Tabulators and line ends, backslashes and quotation
marks are written with a backslash, NUL as `\0`; characters that are not printable or that would
change the look of the one before are written by their code point.
-/

namespace ProxyTunnel.Text.Quoted

open Unicode

/-- One character between quotation marks. -/
def escape (c : Char) : List Char :=
  if c = '\t' then ['\\', 't']
  else if c = '\n' then ['\\', 'n']
  else if c = '\r' then ['\\', 'r']
  else if c = '\\' then ['\\', '\\']
  else if c = '"' then ['\\', '"']
  else if c.toNat = 0 then ['\\', '0']
  else if isExtending c || !isPrintable c then
    ['\\', 'u', '\x7b'] ++ Nat.toDigits 16 c.toNat ++ ['\x7d']
  else [c]

/-- A text between quotation marks. -/
def quote (s : String) : String := String.ofList ('"' :: (s.toList.flatMap escape ++ ['"']))

end ProxyTunnel.Text.Quoted
