import ProxyTunnel.Endpoint
import ProxyTunnel.Credential

/-!
# Proxy servers

How a proxy server is reached and spoken to: its protocol and address, the credential to present,
and what only the protocols on top of HTTP know, a user agent and how certificates are checked.
-/

namespace ProxyTunnel

/-- The protocol spoken with a proxy server. -/
inductive Protocol where
  | socks4a
  | socks5
  | http
  | https
  deriving DecidableEq, Repr

namespace Protocol

/-- The port a server listens on when none is given. -/
def defaultPort : Protocol → UInt16
  | .socks4a | .socks5 => 1080
  | .http => 80
  | .https => 443

/-- The scheme of a proxy URL. -/
def scheme : Protocol → String
  | .socks4a => "socks4a"
  | .socks5 => "socks5"
  | .http => "http"
  | .https => "https"

/-- The name of the protocol. -/
def display : Protocol → String
  | .socks4a => "SOCKS4a"
  | .socks5 => "SOCKS5"
  | .http => "HTTP"
  | .https => "HTTPS"

end Protocol

/-- How the certificate of a proxy server is checked. -/
inductive Verification where
  /-- Any certificate will do. The tunnel is encrypted, but the server could be anyone. -/
  | disabled
  /-- Only certificates that the public authorities vouch for. -/
  | webpki
  deriving DecidableEq, Repr

/-- The name of a kind of verification. -/
def Verification.display : Verification → String
  | .disabled => "disabled"
  | .webpki => "webpki"

/-- A proxy server. -/
inductive Proxy where
  | socks4a (server : Endpoint) (credential : Option Credential)
  | socks5 (server : Endpoint) (credential : Option Credential)
  | http (server : Endpoint) (credential : Option Credential) (userAgent : Option String)
  | https (server : Endpoint) (credential : Option Credential) (userAgent : Option String)
      (verification : Verification)
  deriving DecidableEq, Repr

namespace Proxy

/-- A proxy server without user agent, its certificate not checked. -/
def ofProtocol : Protocol → Endpoint → Option Credential → Proxy
  | .socks4a, server, credential => .socks4a server credential
  | .socks5, server, credential => .socks5 server credential
  | .http, server, credential => .http server credential none
  | .https, server, credential => .https server credential none .disabled

def protocol : Proxy → Protocol
  | .socks4a _ _ => .socks4a
  | .socks5 _ _ => .socks5
  | .http _ _ _ => .http
  | .https _ _ _ _ => .https

def server : Proxy → Endpoint
  | .socks4a server _ | .socks5 server _ | .http server _ _ | .https server _ _ _ => server

def credential : Proxy → Option Credential
  | .socks4a _ credential | .socks5 _ credential | .http _ credential _
  | .https _ credential _ _ => credential

end Proxy

end ProxyTunnel
