import ProxyTunnel.Client.Error
import ProxyTunnel.Client.Tunnel
import ProxyTunnel.Handshake.Socks4
import ProxyTunnel.Handshake.Socks5
import ProxyTunnel.Handshake.Http
import ProxyTunnel.Tls.Session

/-!
# Connecting through proxy servers

`connect` asks a proxy server for a tunnel to a target, over a stream that already leads to the
server; an HTTPS proxy is asked inside a TLS session named after it. The stream may itself be a
tunnel, so proxies can be put one behind another (`hops`). `connectCancellable` gives up when the
carrier says so.
-/

namespace ProxyTunnel

open Conversation

namespace Proxy

/-- The user ID that a SOCKS4a server is told. -/
def userId (credential : Option Credential) : Bytes :=
  (credential.map fun c => Text.Utf8.encode c.userName).getD []

/-- The handshake with a proxy server, in the session if it is an HTTPS proxy. -/
def handshake (target : Endpoint) : Proxy → Conversation HandshakeError Unit
  | .socks4a _ credential => handshakeSocks4 target (userId credential)
  | .socks5 _ credential => do
    let _ ← handshakeSocks5 target credential
    pure ()
  | .http _ credential userAgent | .https _ credential userAgent _ =>
    handshakeHttp target credential userAgent

/-- The name of a server, for a session with it. -/
def serverName (server : Endpoint) : Except ClientError Tls.ServerName :=
  match server with
  | .socket address => .ok (.ip address.ip)
  | .domain name _ =>
    match Tls.ServerName.ofText? name with
    | some n => .ok n
    | none => .error (.invalidServerName name)

end Proxy

variable {σ : Type} [SessionCarrier σ]

/-- Opens the session that an HTTPS proxy is spoken to in; the others need none. -/
def openLayer (proxy : Proxy) (t : Tunnel σ) : Outcome ClientError Unit × Tunnel σ :=
  match proxy with
  | .https server _ _ verification =>
    match Proxy.serverName server with
    | .error e => (.error e, t)
    | .ok name =>
      match t.act fun level => SessionCarrier.openSession level name verification with
      | (.ok (), t) => (.ok (), t.push .tls)
      | (.error f, t) => (.error (.establishTls server f), t)
      | (.stalled, t) => (.stalled, t)
  | _ => (.ok (), t.push .plain)

/-- Asks a proxy server for a tunnel to the target, over a stream that leads to the server. If there
is a tunnel, its first byte is the next byte of the stream. -/
def connect (proxy : Proxy) (target : Endpoint) (t : Tunnel σ) :
    Outcome ClientError Unit × Tunnel σ :=
  match openLayer proxy t with
  | (.ok (), t) =>
    let (o, t) := t.converse (proxy.handshake target)
    (o.mapError (.handshake proxy.protocol proxy.server), t)
  | r => r

/-- Asks a proxy server for a tunnel, but gives up when told to; if told beforehand, at once. -/
def connectCancellable (proxy : Proxy) (target : Endpoint) (t : Tunnel σ) :
    Outcome ClientError Unit × Tunnel σ :=
  if Carrier.isCancelled t.carrier then (.error .cancelled, t)
  else match connect proxy target t with
    | (.stalled, t) => if Carrier.isCancelled t.carrier then (.error .cancelled, t) else (.stalled, t)
    | r => r

/-- The proxies on the way to a target, each with the endpoint it is asked to connect to: the next
proxy, and the target at last. -/
def hops (target : Endpoint) : List Proxy → List (Proxy × Endpoint)
  | [] => []
  | [proxy] => [(proxy, target)]
  | proxy :: next :: proxies => (proxy, next.server) :: hops target (next :: proxies)

/-- Connects through proxies, each inside the tunnel of the one before. -/
def connectAll : List (Proxy × Endpoint) → Tunnel σ → Outcome ClientError Unit × Tunnel σ
  | [], t => (.ok (), t)
  | (proxy, target) :: rest, t =>
    match connect proxy target t with
    | (.ok (), t) => connectAll rest t
    | r => r

end ProxyTunnel
