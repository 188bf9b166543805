import ProxyTunnel.Text.Quoted
import ProxyTunnel.Text.Base64

/-!
# Credentials

User name and password for a proxy server. Diagnostics show the user name alone.
-/

namespace ProxyTunnel

open Text

/-- A user name and a password. -/
structure Credential where
  userName : String
  password : String
  deriving DecidableEq, Repr

namespace Credential

/-- The credential for diagnostics; the password is not shown. -/
def masked (c : Credential) : String :=
  "Credential \x7b user_name: " ++ Quoted.quote c.userName ++ ", password: \"********\" \x7d"

/-- User name and password with a colon between them. -/
def pair (c : Credential) : String := c.userName ++ ":" ++ c.password

/-- The value of a header that presents the credential by the Basic scheme. -/
def basic (c : Credential) : String :=
  "Basic " ++ String.ofList (Base64.encode (Utf8.encode c.pair))

end Credential

end ProxyTunnel
