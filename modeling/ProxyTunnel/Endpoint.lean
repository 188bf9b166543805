import ProxyTunnel.Net.Socket
import ProxyTunnel.Text.Split

/-!
# Endpoints

A place to connect to: a socket address, or a domain name with a port that is left for a proxy to
resolve. `Endpoint.parse` reads `host:port`, `Endpoint.display` writes it, and `Endpoint.normalize`
turns a domain name that is really an IP address, in brackets or not, into a socket address. What
was parsed is normal already.
-/

namespace ProxyTunnel

open Text Net

inductive Endpoint where
  | socket (address : SocketAddress)
  | domain (name : String) (port : UInt16)
  deriving DecidableEq, Repr

namespace Endpoint

/-- Why a text is no endpoint. -/
inductive ParseError where
  | noPort (text : String)
  | invalidPort (text : String) (port : String)
  | noHost (text : String)
  deriving DecidableEq, Repr

/-- The failure in words. -/
def ParseError.message : ParseError → String
  | .noPort text => s!"No port is provided in `{text}`"
  | .invalidPort text port => s!"Invalid port `{port}` in `{text}`"
  | .noHost text => s!"No host is provided in `{text}`"

/-- The endpoint of a host text and a port: a socket address if the host is an IP address. -/
def ofHost (host : List Char) (port : UInt16) : Endpoint :=
  match IpAddress.parse? host with
  | some ip => .socket (.ofIp ip port)
  | none => .domain (String.ofList host) port

/-- Reads `host:port`. A bracketed IPv6 address is a host only as part of a whole socket address. -/
def parse (text : String) : Except ParseError Endpoint :=
  match SocketAddress.parse? text.toList with
  | some address => .ok (.socket address)
  | none =>
    match splitLast? ':' text.toList with
    | none => .error (.noPort text)
    | some (host, port) =>
      match Numeral.port? port with
      | none => .error (.invalidPort text (String.ofList port))
      | some n =>
        if host = [] ∨ host.head? = some '[' then .error (.noHost text)
        else .ok (ofHost host n)

/-- Writes `host:port`. -/
def chars : Endpoint → List Char
  | .socket address => address.chars
  | .domain name port => name.toList ++ ':' :: Nat.toDigits 10 port.toNat

/-- Writes `host:port` as a text. -/
def display (e : Endpoint) : String := String.ofList e.chars

def port : Endpoint → UInt16
  | .socket address => address.port
  | .domain _ port => port

/-- A text without one pair of brackets around it. -/
def unbracket (s : List Char) : List Char :=
  match s with
  | '[' :: t => if t.getLast? = some ']' then t.dropLast else s
  | _ => s

/-- Turns a domain name that spells an IP address into the socket address. -/
def normalize : Endpoint → Endpoint
  | .socket address => .socket address
  | .domain name port =>
    match IpAddress.parse? (unbracket name.toList) with
    | some ip => .socket (.ofIp ip port)
    | none => .domain name port

/-- Whether an endpoint is the given socket address. -/
def isSocket (e : Endpoint) (address : SocketAddress) : Bool :=
  match e with
  | .socket a => a = address
  | .domain _ _ => false

end Endpoint

end ProxyTunnel
