/-!
# Versions of SOCKS

The first byte of every request is the version of the protocol. (The first byte of a SOCKS4 reply is
zero.)
-/

namespace ProxyTunnel.Socks

inductive Version where
  | v4
  | v5
  deriving DecidableEq, Repr

namespace Version

/-- The version byte. -/
def code : Version → UInt8
  | .v4 => 4
  | .v5 => 5

/-- The name of a version. -/
def display : Version → String
  | .v4 => "SOCKS4"
  | .v5 => "SOCKS5"

end Version

end ProxyTunnel.Socks
