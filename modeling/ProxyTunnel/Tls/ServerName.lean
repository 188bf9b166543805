import ProxyTunnel.Endpoint
import ProxyTunnel.Text.Split

/-!
# Server names

The name under which a TLS server is asked for a certificate: a DNS name or an IP address. DNS names
are checked label by label; one trailing dot is allowed.
-/

namespace ProxyTunnel.Tls

open Text

/-- The name of a TLS server. -/
inductive ServerName where
  | dns (name : String)
  | ip (address : IpAddress)
  deriving DecidableEq, Repr

namespace ServerName

/-- The most characters of a DNS name. -/
def maxNameLength : Nat := 253

/-- The most characters of a label. -/
def maxLabelLength : Nat := 63

/-- Whether a character may stand at the edges of a label: ASCII letters, digits and `_`. -/
def isEdge (c : Char) : Bool := c.isAlphanum || c = '_'

/-- Whether a text can be a label of a DNS name. -/
def isLabel (s : List Char) : Bool :=
  1 ≤ s.length && s.length ≤ maxLabelLength && s.all (fun c => isEdge c || c = '-') &&
    s.head?.all isEdge && s.getLast?.all isEdge

/-- A text without one dot at its end. -/
def withoutTrailingDot (s : List Char) : List Char :=
  if s.getLast? = some '.' then s.dropLast else s

/-- Whether a text is a DNS name. A last label of digits alone would make it an address. -/
def isDnsName (s : List Char) : Bool :=
  let labels := splitAll (· = '.') (withoutTrailingDot s)
  s.length ≤ maxNameLength && labels.all isLabel &&
    labels.getLast?.all fun label => !label.all (Numeral.isDigit 10)

/-- The name of a server in a text. -/
def ofText? (name : String) : Option ServerName :=
  if isDnsName name.toList then some (.dns name)
  else (IpAddress.parse? name.toList).map .ip

/-- The name that is sent to the server in the clear: only DNS names are, in small letters and
without a trailing dot. -/
def indication? : ServerName → Option String
  | .dns name => some (String.ofList ((withoutTrailingDot name.toList).map Char.toLower))
  | .ip _ => none

end ServerName

end ProxyTunnel.Tls
