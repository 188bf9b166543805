import ProxyTunnel.Proxy.Basic
import ProxyTunnel.Document

/-!
# Proxy servers in configurations

A proxy server as a structured value: a table whose `type` names the protocol, or a list of that
name and the settings in order. Keys that are no setting are passed over; so is a setting that the
protocol does not know. No setting may be given twice. `Proxy.ofDocument?` reads what
`Proxy.toDocument` writes.
-/

namespace ProxyTunnel

open Document

/-- Reads a text. -/
def Document.text? : Document → Option String
  | .text s => some s
  | _ => none

/-- Reads a value that may be left out or null. -/
def Document.optional {α : Type} (read : Document → Option α) : Option Document → Option (Option α)
  | none | some .null => some none
  | some d => (read d).map some

/-- Reads a credential: a table, or a list of user name and password. The password may be left
out. -/
def Credential.ofDocument? : Document → Option Credential
  | .table es => do
    guard (isUnambiguous ["user_name", "password"] es)
    let userName ← (← lookup "user_name" es).text?
    match lookup "password" es with
    | none => some ⟨userName, ""⟩
    | some d => some ⟨userName, ← d.text?⟩
  | .list [u] => u.text?.map (⟨·, ""⟩)
  | .list [u, p] => do some ⟨← u.text?, ← p.text?⟩
  | _ => none

/-- A credential as a table. -/
def Credential.toDocument (c : Credential) : Document :=
  .table [("user_name", .text c.userName), ("password", .text c.password)]

/-- The kind of verification of a name. -/
def Verification.ofName? : String → Option Verification
  | "disabled" => some .disabled
  | "webpki" => some .webpki
  | _ => none

/-- Reads a kind of verification: its name, or a table that holds nothing under that name. -/
def Verification.ofDocument? : Document → Option Verification
  | .text s => ofName? s
  | .table [(s, .null)] | .table [(s, .table [])] => ofName? s
  | _ => none

/-- Reads the address of a server. -/
def Endpoint.ofDocument? (d : Document) : Option Endpoint := do
  (Endpoint.parse (← d.text?)).toOption

/-- The protocol of a name. -/
def Protocol.ofName? : String → Option Protocol
  | "socks4a" => some .socks4a
  | "socks5" => some .socks5
  | "http" => some .http
  | "https" => some .https
  | _ => none

/-- The keys that have a meaning for a protocol. -/
def Protocol.keys : Protocol → List String
  | .socks4a | .socks5 => ["type", "server", "credential"]
  | .http => ["type", "server", "credential", "user_agent"]
  | .https => ["type", "server", "credential", "user_agent", "certificate_verification"]

namespace Proxy

/-- Reads the settings of a table. -/
def ofEntries? (protocol : Protocol) (es : List (String × Document)) : Option Proxy := do
  let server ← Endpoint.ofDocument? (← lookup "server" es)
  let credential ← optional Credential.ofDocument? (lookup "credential" es)
  match protocol with
  | .socks4a => some (.socks4a server credential)
  | .socks5 => some (.socks5 server credential)
  | .http => some (.http server credential (← optional text? (lookup "user_agent" es)))
  | .https =>
    let userAgent ← optional text? (lookup "user_agent" es)
    let verification ← match lookup "certificate_verification" es with
      | none => some Verification.disabled
      | some d => Verification.ofDocument? d
    some (.https server credential userAgent verification)

/-- Reads the settings of a list. All must be there, but for the kind of verification. -/
def ofItems? : Protocol → List Document → Option Proxy
  | .socks4a, [s, c] => do
    some (.socks4a (← Endpoint.ofDocument? s) (← optional Credential.ofDocument? (some c)))
  | .socks5, [s, c] => do
    some (.socks5 (← Endpoint.ofDocument? s) (← optional Credential.ofDocument? (some c)))
  | .http, [s, c, u] => do
    some (.http (← Endpoint.ofDocument? s) (← optional Credential.ofDocument? (some c))
      (← optional text? (some u)))
  | .https, [s, c, u] => do
    some (.https (← Endpoint.ofDocument? s) (← optional Credential.ofDocument? (some c))
      (← optional text? (some u)) .disabled)
  | .https, [s, c, u, v] => do
    some (.https (← Endpoint.ofDocument? s) (← optional Credential.ofDocument? (some c))
      (← optional text? (some u)) (← Verification.ofDocument? v))
  | _, _ => none

/-- Reads a proxy server. -/
def ofDocument? : Document → Option Proxy
  | .table es => do
    let protocol ← Protocol.ofName? (← (← lookup "type" es).text?)
    guard (isUnambiguous protocol.keys es)
    ofEntries? protocol es
  | .list (t :: items) => do
    let protocol ← Protocol.ofName? (← t.text?)
    ofItems? protocol items
  | _ => none

/-- The settings of a proxy server by name, in the order of the list form. -/
def entries (p : Proxy) : List (String × Document) :=
  let optionalText := fun s : Option String => (s.map Document.text).getD .null
  let common := [("server", Document.text p.server.display),
    ("credential", (p.credential.map Credential.toDocument).getD .null)]
  match p with
  | .socks4a _ _ | .socks5 _ _ => common
  | .http _ _ userAgent => common ++ [("user_agent", optionalText userAgent)]
  | .https _ _ userAgent verification =>
    common ++ [("user_agent", optionalText userAgent),
      ("certificate_verification", .text verification.display)]

/-- A proxy server as a table. -/
def toDocument (p : Proxy) : Document :=
  .table (("type", .text p.protocol.scheme) :: p.entries)

end Proxy

end ProxyTunnel
