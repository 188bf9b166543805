import ProxyTunnel.Handshake.Basic
import ProxyTunnel.Http.Request
import ProxyTunnel.Http.Response

/-!
# HTTP handshake

One request and the head of one response. The head is read byte by byte, so that nothing of the
tunnel behind it is taken from the stream, and looked at only where a line ends.
-/

namespace ProxyTunnel

open Conversation Http

/-- The most bytes the head of a response may have. -/
def maxHeadSize : Nat := 8 * 1024

/-- Reads the rest of a head, of at most `room` more bytes. -/
def awaitResponse : (room : Nat) → Head → Conversation HandshakeError ConnectResponse
  | 0, _ => .fail (.httpResponseTooLarge maxHeadSize)
  | room + 1, head => do
    let b ← Conversation.byte .ofRead
    let head := head.step b
    if b = lf then
      match ConnectResponse.ofHead? head with
      | some result => .ofExcept (result.mapError .ofHttp)
      | none => awaitResponse room head
    else awaitResponse room head

/-- Asks an HTTP proxy for a tunnel. What can not be said in a request is refused before anything is
sent. -/
def handshakeHttp (target : Endpoint) (credential : Option Credential)
    (userAgent : Option String) : Conversation HandshakeError Unit := do
  let request : ConnectRequest := ⟨target, userAgent, credential⟩
  let message ← Conversation.ofExcept (request.toBytes.mapError .ofHttp)
  send message
  let response ← awaitResponse maxHeadSize .start
  if response.isSuccess then pure () else .fail (.connectRejected response.status)

end ProxyTunnel
