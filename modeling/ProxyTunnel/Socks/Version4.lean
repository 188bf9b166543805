import ProxyTunnel.Socks.Error
import ProxyTunnel.Socks.Version
import ProxyTunnel.Stream.Conversation

/-!
# SOCKS4 and SOCKS4a messages

A request names an IPv4 address, or a host name, which SOCKS4a puts behind the user ID and marks by
an address that can not occur. User ID and host name end with a zero byte. A reply has eight bytes.
-/

namespace ProxyTunnel.Socks4

open Text Net Socks

/-- What a request asks to connect to. -/
inductive Target where
  | address (ip : Ipv4)
  /-- A host name for the server to resolve, which needs SOCKS4a. -/
  | host (name : String)
  deriving DecidableEq, Repr

/-- A request to connect. -/
structure Request where
  target : Target
  port : UInt16
  userId : Bytes
  deriving DecidableEq, Repr

namespace Request

/-- The request for a target. A domain name that spells an IP address counts as that. -/
def build (target : Endpoint) (userId : Bytes) : Except SocksError Request :=
  if userId.contains 0 then .error (.nullByte .userId)
  else match target.normalize with
    | .socket (.v4 ip port) => .ok ⟨.address ip, port, userId⟩
    | .socket (.v6 ip port flow scope) =>
      .error (.unsupportedAddress (.socket (.v6 ip port flow scope)))
    | .domain name port =>
      if (Utf8.encode name).contains 0 then .error (.nullByte .hostName)
      else .ok ⟨.host name, port, userId⟩

/-- Whether the request needs SOCKS4a. -/
def isNamed (r : Request) : Bool :=
  match r.target with
  | .address _ => false
  | .host _ => true

/-- The address that tells a SOCKS4a server to expect a host name: `0.0.0.x`, where `x` is not
zero. -/
def hostFollows : Ipv4 := ⟨0, 0, 0, 1⟩

/-- The request as it is sent. -/
def toBytes (r : Request) : Bytes :=
  [Version.v4.code, 1] ++ Word.bytes r.port ++
    match r.target with
    | .address ip => ip.bytes ++ r.userId ++ [0]
    | .host name => hostFollows.bytes ++ r.userId ++ 0 :: Utf8.encode name ++ [0]

/-- How many bytes the request takes. -/
def size (r : Request) : Nat :=
  let host := match r.target with
    | .address _ => 0
    | .host name => (Utf8.encode name).length + 1
  1 + 1 + 2 + 4 + r.userId.length + 1 + host

theorem length_toBytes (r : Request) : r.toBytes.length = r.size := by
  obtain ⟨target, port, userId⟩ := r
  cases target <;>
    simp only [toBytes, size, Word.bytes, Ipv4.bytes, List.length_append, List.length_cons,
      List.length_nil] <;> omega

end Request

/-- How a server answers a request. -/
inductive ReplyField where
  | granted
  | rejected
  /-- The server could not ask the client for the user ID. -/
  | unreachable
  /-- The client and the request gave different user IDs. -/
  | invalidId
  | unknown (code : UInt8)
  deriving DecidableEq, Repr

namespace ReplyField

/-- The byte for an answer. -/
def code : ReplyField → UInt8
  | .granted => 0x5A
  | .rejected => 0x5B
  | .unreachable => 0x5C
  | .invalidId => 0x5D
  | .unknown code => code

/-- The answer that a byte stands for. -/
def ofCode (code : UInt8) : ReplyField :=
  match code with
  | 0x5A => .granted
  | 0x5B => .rejected
  | 0x5C => .unreachable
  | 0x5D => .invalidId
  | _ => .unknown code

end ReplyField

/-- The answer to a request. -/
structure Reply where
  field : ReplyField
  ip : Ipv4
  port : UInt16
  deriving DecidableEq, Repr

namespace Reply

/-- The address the reply gives; it has no meaning for requests to connect. -/
def address (r : Reply) : SocketAddress := .v4 r.ip r.port

/-- Reads the eight bytes of a reply. -/
def ofVector (v : Vector UInt8 8) : Except SocksError Reply :=
  if v[0] = 0 then
    .ok ⟨.ofCode v[1], ⟨v[4], v[5], v[6], v[7]⟩, Word.ofBytes v[2] v[3]⟩
  else .error (.invalidReplyVersion v[0])

/-- Waits for a reply. -/
def receive : Conversation SocksError Reply := do
  let block ← Conversation.block 8 .read
  Conversation.ofExcept (ofVector block)

end Reply

end ProxyTunnel.Socks4
