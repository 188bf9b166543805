import ProxyTunnel.Proxy.Basic
import ProxyTunnel.Url

/-!
# Proxy URLs

A proxy server as a URL: the scheme names the protocol, the user information is the credential.
`Proxy.parse` reads such a URL, `Proxy.display` writes it without the password.
-/

namespace ProxyTunnel.Proxy

open Text

/-- Why a text names no proxy server. -/
inductive ParseError where
  | url (text : String) (cause : UrlError)
  | unknownScheme (scheme : String)
  | noHost (text : String)
  | credential (cause : Utf8.Malformed)
  deriving DecidableEq, Repr

/-- The failure in words. -/
def ParseError.message : ParseError → String
  | .url text cause => "Could not parse proxy URL `" ++ text ++ "`, error: " ++ cause.message
  | .unknownScheme scheme => "Unknown proxy scheme: " ++ scheme
  | .noHost text => "No host is provided in proxy URL `" ++ text ++ "`"
  | .credential cause => "Could not decode credential in proxy URL, error: " ++ cause.message

/-- The protocol that a scheme names. -/
def protocolOfScheme? (scheme : List Char) : Option Protocol :=
  match String.ofList scheme with
  | "socks4" | "socks4a" => some .socks4a
  | "socks5" | "socks5h" => some .socks5
  | "http" => some .http
  | "https" => some .https
  | _ => none

/-- The server at a host of a URL. An opaque host may spell an IP address. -/
def serverOfHost (host : UrlHost) (port : UInt16) : Endpoint :=
  match host with
  | .domain name => .ofHost name port
  | .ipv4 ip => .socket (.v4 ip port)
  | .ipv6 ip => .socket (.v6 ip port 0 0)

/-- Reads back a part of the user information. -/
def decodeUserInfo (s : List Char) : Except ParseError String :=
  (Utf8.decode (Percent.decode (Utf8.encodeChars s))).mapError .credential

/-- The credential of a URL; none without a user name. -/
def credentialOfUrl (url : Url) : Except ParseError (Option Credential) := do
  if url.userName = [] then pure none
  else
    let userName ← decodeUserInfo url.userName
    let password ← decodeUserInfo url.password
    pure (some ⟨userName, password⟩)

/-- Reads a proxy URL. -/
def parse (text : String) : Except ParseError Proxy :=
  match Url.parse text.toList with
  | .error cause => .error (.url text cause)
  | .ok url =>
    match protocolOfScheme? url.scheme with
    | none => .error (.unknownScheme (String.ofList url.scheme))
    | some protocol =>
      match url.host with
      | none => .error (.noHost text)
      | some host =>
        let port := url.port.getD protocol.defaultPort
        (credentialOfUrl url).map (ofProtocol protocol (serverOfHost host port))

/-- The ASCII characters of a user name that are percent-encoded. -/
def isReservedInUserName (c : Char) : Bool :=
  Percent.isControl c || " \"#%/:;<=>?@[\\]^`\x7b|\x7d".toList.contains c

/-- The URL of a proxy server, without the password. -/
def chars (p : Proxy) : List Char :=
  let user := match p.credential with
    | some c => Percent.encode isReservedInUserName c.userName.toList ++ ['@']
    | none => []
  p.protocol.scheme.toList ++ "://".toList ++ user ++ p.server.chars

/-- The URL of a proxy server as a text. -/
def display (p : Proxy) : String := String.ofList p.chars

end ProxyTunnel.Proxy
