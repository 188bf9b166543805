import ProxyTunnel.Handshake.Basic
import ProxyTunnel.Socks.Version4

/-!
# SOCKS4 handshake

One request, SOCKS4a for targets that are no IPv4 addresses, and one reply.
-/

namespace ProxyTunnel

open Conversation

/-- Asks a SOCKS4 server for a tunnel. What can not be said in SOCKS4 is refused before anything is
sent. -/
def handshakeSocks4 (target : Endpoint) (userId : Bytes) : Conversation HandshakeError Unit := do
  let request ← ofSocks (.ofExcept (Socks4.Request.build target userId))
  send request.toBytes
  let reply ← ofSocks Socks4.Reply.receive
  match reply.field with
  | .granted => pure ()
  | field => .fail (.connectRejected field.code.toNat)

end ProxyTunnel
