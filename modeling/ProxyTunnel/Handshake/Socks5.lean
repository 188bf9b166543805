import ProxyTunnel.Handshake.Basic

/-!
# SOCKS5 handshake

Greeting and choice of a method, user name and password if the server wants them, request and reply.
-/

namespace ProxyTunnel

open Conversation Socks5

/-- The methods offered: the one with user name and password only if there is a credential. -/
def offeredMethods (login : Option Login) : List Method :=
  match login with
  | none => [.noAuthentication]
  | some _ => [.noAuthentication, .userPassword]

/-- Does what the selected method asks for. -/
def authenticate (login : Option Login) (method : Method) : Conversation HandshakeError Unit :=
  match method with
  | .noAuthentication => pure ()
  | .userPassword =>
    match login with
    | none => .fail .authenticationRequired
    | some login => do
      send login.toBytes
      let reply ← ofSocks LoginReply.receive
      if reply.isSuccess then pure ()
      else .fail (.authenticationRejected reply.version reply.status)
  | method => .fail (.unsupportedSocksMethod method)

/-- Asks a SOCKS5 server for a tunnel, and gives the address the server uses for it. Credential and
target are checked before anything is sent. -/
def handshakeSocks5 (target : Endpoint) (credential : Option Credential) :
    Conversation HandshakeError Endpoint := do
  let login ← ofSocks (.ofExcept (credential.mapM Login.ofCredential))
  let destination ← ofSocks (.ofExcept (Socks.Address.ofEndpoint target))
  send (Greeting.ofMethods (offeredMethods login)).toBytes
  let selection ← ofSocks Selection.receive
  authenticate login selection.method
  send (Request.mk destination).toBytes
  let reply ← ofSocks Reply.receive
  match reply.field with
  | .success => pure reply.bound.endpoint
  | field => .fail (.connectRejected field.code.toNat)

end ProxyTunnel
