import ProxyTunnel.Idna.Mapping
import ProxyTunnel.Idna.Punycode
import ProxyTunnel.Unicode.Canonical
import ProxyTunnel.Unicode.Script
import ProxyTunnel.Text.Utf8

/-!
# Internationalised domain names

The ASCII form of a domain name as a URL holds it. The name is mapped and composed, cut into labels,
and labels behind `xn--` are read as Punycode. Every label must pass `isLabel`, a name with letters
written from right to left must keep the rules of direction, and no forbidden ASCII character may
be left. Labels that are not ASCII are then written as Punycode. A name of small ASCII letters,
digits and full stops without hyphens is its own ASCII form.
-/

namespace ProxyTunnel.Idna

open Unicode Text

/-- Whether an ASCII character must not stand in the host of a URL: control characters, the blank
and the delimiters of URLs. -/
def isForbidden (c : Char) : Bool :=
  c.toNat ≤ 0x20 || c.toNat = 0x7F || "%#/:<>?@[\\]^|".toList.contains c

/-- Whether a joiner may stand behind `before` (in reverse) and in front of `behind`: behind a sign
that suppresses a vowel, or, for the non-joiner, between letters that would join. -/
def joinerAllowed (c : Char) (before behind : List Char) : Bool :=
  match before with
  | [] => false
  | p :: _ =>
    if combiningClass p.toNat = 9 then true
    else if c.toNat = 0x200D then false
    else
      let skip := fun s : List Char => (s.dropWhile (joiningType · = .transparent)).head?.map joiningType
      (skip before = some .left || skip before = some .dual) &&
        (skip behind = some .right || skip behind = some .dual)

/-- Whether all joiners of a label are where they may be; `before` is the part in front, in
reverse. -/
def joinersAllowed : (before behind : List Char) → Bool
  | _, [] => true
  | before, c :: s =>
    (if c.toNat = 0x200C ∨ c.toNat = 0x200D then joinerAllowed c before s else true) &&
      joinersAllowed (c :: before) s

/-- Whether a label starts with no mark, has its joiners in place and holds no forbidden
character. -/
def isLabel (s : List Char) : Bool :=
  !(s.head?.any isMark) && joinersAllowed [] s && !s.any isForbidden

/-- The directions that may stand in a label that starts from the left. -/
def allowedLeft (d : Direction) : Bool :=
  [.left, .european, .europeanSeparator, .commonSeparator, .europeanTerminator, .neutral, .boundary,
    .mark].contains d

/-- The directions that may stand in a label that starts from the right. -/
def allowedRight (d : Direction) : Bool :=
  [.right, .arabic, .arabicNumber, .european, .europeanSeparator, .commonSeparator,
    .europeanTerminator, .neutral, .boundary, .mark].contains d

/-- The rules of direction for one label. -/
def directionsAllowed (s : List Char) : Bool :=
  let ds := s.map direction
  let last := (ds.reverse.dropWhile (· = .mark)).head?
  match ds.head? with
  | none => true
  | some .left =>
    ds.all allowedLeft && (last = some .left || last = some .european)
  | some d =>
    (d = .right || d = .arabic) && ds.all allowedRight &&
      [some .right, some .arabic, some .european, some .arabicNumber].contains last &&
      !(ds.contains .european && ds.contains .arabicNumber)

/-- Whether a label has letters or digits written from right to left. Hebrew, the first of the
scripts that do, starts at U+0590. -/
def hasRightToLeft (s : List Char) : Bool :=
  s.any fun c => 0x590 ≤ c.toNat && [.right, .arabic, .arabicNumber].contains (direction c)

def isAscii (s : List Char) : Bool := s.all (·.toNat < 0x80)

/-- What marks a label in Punycode. -/
def acePrefix : List Char := "xn--".toList

/-- The most characters of a label that are read or written as Punycode. -/
def maxEncoded : Nat := 2000
def maxDecoded : Nat := 1000

/-- The characters a mapped label stands for. One in Punycode must not be the form of ASCII
characters, nor of any that would have been mapped. -/
def readLabel (s : List Char) : Option (List Char) :=
  if s.take 4 = acePrefix then
    let code := s.drop 4
    if maxEncoded < code.length then none
    else match Punycode.decode code with
      | none => none
      | some t => if isAscii t || !t.all isKept || compose t ≠ t then none else some t
  else some s

/-- The ASCII form of a label. -/
def writeLabel (s : List Char) : Option (List Char) :=
  if isAscii s then some s
  else if maxDecoded < s.length then none
  else some (acePrefix ++ Punycode.encode s)

/-- Labels with full stops between them. -/
def joinLabels : List (List Char) → List Char
  | [] => []
  | [l] => l
  | l :: ls => l ++ '.' :: joinLabels ls

/-- The ASCII form of a domain name. -/
def toAsciiChars (s : List Char) : Option (List Char) := do
  let mapped ← mapName s
  let labels ← (splitAll (· = '.') (compose mapped)).mapM readLabel
  if !labels.all isLabel then none
  else if labels.any hasRightToLeft && !labels.all directionsAllowed then none
  else
    let written ← labels.mapM writeLabel
    some (joinLabels written)

/-- The ASCII form of a domain name given as bytes, which must be UTF-8. -/
def toAscii (bs : Bytes) : Option (List Char) :=
  match Utf8.ofPieces 0 (Utf8.pieces bs) with
  | .ok cs => toAsciiChars cs
  | .error _ => none

end ProxyTunnel.Idna
