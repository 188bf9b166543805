import ProxyTunnel.Handshake.Error
import ProxyTunnel.Proxy.Basic

/-!
# Errors of connecting

Why there is no tunnel through a proxy server.
-/

namespace ProxyTunnel

inductive ClientError where
  /-- The server could not be reached. -/
  | connectServer (server : Endpoint) (fault : Fault)
  | handshake (protocol : Protocol) (server : Endpoint) (cause : HandshakeError)
  /-- The server's name can not be the name of a TLS server. -/
  | invalidServerName (name : String)
  | establishTls (server : Endpoint) (fault : Fault)
  | cancelled
  deriving DecidableEq, Repr

namespace ClientError

/-- The error in words. -/
def message : ClientError → String
  | connectServer server fault =>
    s!"Could not connect proxy server {server.display}, error: {fault.message}"
  | handshake protocol server cause =>
    s!"{protocol.display} handshake with {server.display} failed, error: {cause.message}"
  | invalidServerName name => s!"Invalid TLS server name `{name}`, error: invalid dns name"
  | establishTls server fault =>
    s!"Could not establish TLS session with {server.display}, error: {fault.message}"
  | cancelled => "Connecting through proxy is cancelled"

/-- The kind of an error. -/
def kind : ClientError → ErrorKind
  | connectServer _ _ => .io
  | handshake _ _ cause => cause.kind
  | invalidServerName _ | establishTls _ _ => .tls
  | cancelled => .cancelled

/-- The code by which the server refused the tunnel. -/
def rejectionCode? : ClientError → Option Nat
  | handshake _ _ cause => cause.rejectionCode?
  | _ => none

/-- The protocol of the server whose handshake failed. -/
def protocol? : ClientError → Option Protocol
  | handshake protocol _ _ => some protocol
  | _ => none

end ClientError

end ProxyTunnel
