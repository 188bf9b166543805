import ProxyTunnel.Net.Ipv6

/-!
# Socket addresses

An IP address with a port. IPv4 is written `a.b.c.d:port`, IPv6 `[address]:port`, with `%scope`
behind the address when the scope id is not zero. The flow information of IPv6 has no written form.
-/

namespace ProxyTunnel

open Text Net

/-- An address of either family. -/
inductive IpAddress where
  | v4 (ip : Ipv4)
  | v6 (ip : Ipv6)
  deriving DecidableEq, Repr

namespace IpAddress

/-- Reads a whole text as an address of either family. -/
def parse? (s : List Char) : Option IpAddress :=
  match Ipv4.read? s with
  | some (ip, []) => some (.v4 ip)
  | some _ => none
  | none => (Ipv6.parse? s).map .v6

/-- The text of an address. -/
def chars : IpAddress → List Char
  | .v4 ip => ip.chars
  | .v6 ip => ip.chars

end IpAddress

/-- An IP address and a port, with the scope of IPv6. -/
inductive SocketAddress where
  | v4 (ip : Ipv4) (port : UInt16)
  | v6 (ip : Ipv6) (port : UInt16) (flow : UInt32) (scope : UInt32)
  deriving DecidableEq, Repr

namespace SocketAddress

/-- An address and a port, with flow information and scope zero. -/
def ofIp : IpAddress → UInt16 → SocketAddress
  | .v4 ip, port => .v4 ip port
  | .v6 ip, port => .v6 ip port 0 0

/-- The address without port and scope. -/
def ip : SocketAddress → IpAddress
  | .v4 ip _ => .v4 ip
  | .v6 ip _ _ _ => .v6 ip

def port : SocketAddress → UInt16
  | .v4 _ port | .v6 _ port _ _ => port

/-- The same address with flow information and scope zero: what an encoding by address and port
keeps of it. -/
def unscoped : SocketAddress → SocketAddress
  | .v4 ip port => .v4 ip port
  | .v6 ip port _ _ => .v6 ip port 0 0

/-- A number behind a sign, as far as its digits go, of at most `max`. -/
def readNumber? (sign : Char) (max : Nat) (s : List Char) : Option (Nat × List Char) := do
  let s ← skip? sign s
  let ds := Numeral.digits 10 s
  if ds = [] ∨ max < Numeral.value 10 ds then none
  else some (Numeral.value 10 ds, Numeral.rest 10 s)

/-- Reads a whole text as an IPv4 address with a port. -/
def parseV4? (s : List Char) : Option SocketAddress := do
  let (ip, s) ← Ipv4.read? s
  match ← readNumber? ':' 65535 s with
  | (port, []) => some (.v4 ip (UInt16.ofNat port))
  | _ => none

/-- Reads a whole text as an IPv6 address in brackets with a port. -/
def parseV6? (s : List Char) : Option SocketAddress := do
  let s ← skip? '[' s
  let (ip, s) ← Ipv6.read? s
  let (scope, s) := (readNumber? '%' 4294967295 s).getD (0, s)
  let s ← skip? ']' s
  match ← readNumber? ':' 65535 s with
  | (port, []) => some (.v6 ip (UInt16.ofNat port) 0 (UInt32.ofNat scope))
  | _ => none

/-- Reads a whole text as an address with a port. -/
def parse? (s : List Char) : Option SocketAddress :=
  (parseV4? s).or (parseV6? s)

/-- The text of an address with its port. -/
def chars : SocketAddress → List Char
  | .v4 ip port => ip.chars ++ ':' :: Nat.toDigits 10 port.toNat
  | .v6 ip port _ scope =>
    let zone := if scope = 0 then [] else '%' :: Nat.toDigits 10 scope.toNat
    '[' :: (ip.chars ++ zone ++ ']' :: ':' :: Nat.toDigits 10 port.toNat)

end SocketAddress

end ProxyTunnel
