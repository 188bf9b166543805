import ProxyTunnel.Http.Error
import ProxyTunnel.Credential
import ProxyTunnel.Endpoint

/-!
# CONNECT requests

A request asks an HTTP proxy for a tunnel to its target, which is named in the request line and in
the `Host` header. User agent and credential have headers of their own. Target and user agent may
contain nothing that ends a line.
-/

namespace ProxyTunnel.Http

open Text

/-- A request for a tunnel. -/
structure ConnectRequest where
  target : Endpoint
  userAgent : Option String := none
  credential : Option Credential := none
  deriving DecidableEq, Repr

namespace ConnectRequest

/-- Whether a text can be the value of a header. -/
def isHeaderValue (s : List Char) : Bool := !s.any fun c => c = '\r' || c = '\n' || c = '\x00'

/-- One line of the request. -/
def line (s : List Char) : List Char := s ++ ['\r', '\n']

/-- The lines of the request for a target in its written form. -/
def lines (r : ConnectRequest) (host : List Char) : List (List Char) :=
  [ "CONNECT ".toList ++ host ++ " HTTP/1.1".toList,
    "Host: ".toList ++ host ] ++
  (r.userAgent.map fun agent => "User-Agent: ".toList ++ agent.toList).toList ++
  (r.credential.map fun c => "Proxy-Authorization: ".toList ++ c.basic.toList).toList ++
  [[]]

/-- The request as a text. A target that is an IPv6 address gets brackets. -/
def text (r : ConnectRequest) : Except HttpError (List Char) :=
  let host := r.target.normalize.chars
  if !isHeaderValue host then .error (.invalidHeaderValue .host)
  else if r.userAgent.any fun agent => !isHeaderValue agent.toList then
    .error (.invalidHeaderValue .userAgent)
  else .ok ((r.lines host).flatMap line)

/-- The request as it is sent. -/
def toBytes (r : ConnectRequest) : Except HttpError Bytes := r.text.map Utf8.encodeChars

end ConnectRequest

end ProxyTunnel.Http
