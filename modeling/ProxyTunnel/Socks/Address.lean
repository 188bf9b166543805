import ProxyTunnel.Socks.Error
import ProxyTunnel.Stream.Conversation

/-!
# Addresses in SOCKS5 messages

A type byte, then four bytes of IPv4, sixteen bytes of IPv6, or a domain name behind its length, and
at last the port. `Address.ofEndpoint` makes the address of an endpoint, `Address.toBytes` writes
it, and `Address.receive` reads one from a stream. The length byte leaves room for domain names of
at most 255 bytes.
-/

namespace ProxyTunnel.Socks

open Text Net

/-- The longest field that a length byte can describe. -/
def maxFieldLength : Nat := 255

/-- The kinds of addresses. -/
inductive AddressType where
  | ipv4
  | domain
  | ipv6
  deriving DecidableEq, Repr

namespace AddressType

/-- The type byte. -/
def code : AddressType → UInt8
  | .ipv4 => 1
  | .domain => 3
  | .ipv6 => 4

/-- The kind that a type byte stands for. -/
def ofCode (code : UInt8) : Except SocksError AddressType :=
  match code with
  | 1 => .ok .ipv4
  | 3 => .ok .domain
  | 4 => .ok .ipv6
  | _ => .error (.invalidAddressType code)

end AddressType

/-- An address of a SOCKS5 message. -/
structure Address where
  endpoint : Endpoint
  deriving DecidableEq, Repr

namespace Address

/-- The address of an endpoint. A domain name that spells an IP address is sent as that. -/
def ofEndpoint (target : Endpoint) : Except SocksError Address :=
  match target.normalize with
  | .domain name port =>
    let length := (Utf8.encode name).length
    if maxFieldLength < length then .error (.domainTooLong length)
    else .ok ⟨.domain name port⟩
  | .socket address => .ok ⟨.socket address⟩

/-- The address of a domain name in bytes; what is no UTF-8 in it is replaced. -/
def ofDomainBytes (name : Bytes) (port : UInt16) : Address :=
  ⟨.domain (Utf8.decodeLossy name) port⟩

/-- The kind of an address. -/
def type (a : Address) : AddressType :=
  match a.endpoint with
  | .socket (.v4 _ _) => .ipv4
  | .socket (.v6 _ _ _ _) => .ipv6
  | .domain _ _ => .domain

/-- The bytes between type and port. -/
def body (a : Address) : Bytes :=
  match a.endpoint with
  | .socket (.v4 ip _) => ip.bytes
  | .socket (.v6 ip _ _ _) => ip.bytes
  | .domain name _ =>
    let bytes := Utf8.encode name
    UInt8.ofNat bytes.length :: bytes

/-- The address as it is sent. -/
def toBytes (a : Address) : Bytes := a.type.code :: (a.body ++ Word.bytes a.endpoint.port)

/-- How many bytes the address takes. -/
def size (a : Address) : Nat :=
  let body := match a.endpoint with
    | .socket (.v4 _ _) => 4
    | .socket (.v6 _ _ _ _) => 16
    | .domain name _ => 1 + (Utf8.encode name).length
  1 + body + 2

theorem length_toBytes (a : Address) : a.toBytes.length = a.size := by
  obtain ⟨address | _⟩ := a
  · cases address <;>
      simp [toBytes, size, body, Ipv4.length_bytes, Ipv6.length_bytes, Word.length_bytes]
  · simp [toBytes, size, body, Word.length_bytes]; omega

/-- Reads what follows the type byte. -/
def receiveBody : AddressType → Conversation SocksError Address
  | .ipv4 => do
    let ip ← Conversation.block 4 .read
    let port ← Conversation.word .read
    pure ⟨.socket (.v4 (.ofVector ip) port)⟩
  | .ipv6 => do
    let ip ← Conversation.block 16 .read
    let port ← Conversation.word .read
    pure ⟨.socket (.v6 (.ofVector ip) port 0 0)⟩
  | .domain => do
    let length ← Conversation.byte .read
    let name ← Conversation.block length.toNat .read
    let port ← Conversation.word .read
    pure (ofDomainBytes name.toList port)

/-- Reads an address. -/
def receive : Conversation SocksError Address := do
  let code ← Conversation.byte .read
  receiveBody (← Conversation.ofExcept (AddressType.ofCode code))

end Address

end ProxyTunnel.Socks
