/-!
# HTTP errors

Why a CONNECT request can not be built, or the head of a response was not understood.
-/

namespace ProxyTunnel

/-- The headers of a request whose values come from outside. -/
inductive GuardedHeader where
  | host
  | userAgent
  deriving DecidableEq, Repr

/-- The name of a header. -/
def GuardedHeader.display : GuardedHeader → String
  | .host => "Host"
  | .userAgent => "User-Agent"

/-- What is wrong with the head of a response. -/
inductive HeadFault where
  | headerName
  | headerValue
  | newLine
  | status
  | tooManyHeaders
  | version
  deriving DecidableEq, Repr

/-- The fault in words. -/
def HeadFault.message : HeadFault → String
  | .headerName => "invalid header name"
  | .headerValue => "invalid header value"
  | .newLine => "invalid new line"
  | .status => "invalid response status"
  | .tooManyHeaders => "too many headers"
  | .version => "invalid HTTP version"

inductive HttpError where
  /-- The value of a header would end its line. -/
  | invalidHeaderValue (header : GuardedHeader)
  | parseResponse (fault : HeadFault)
  | invalidStatusCode (code : Nat)
  deriving DecidableEq, Repr

namespace HttpError

/-- The error in words. -/
def message : HttpError → String
  | invalidHeaderValue header => s!"Invalid value for HTTP header `{header.display}`"
  | parseResponse fault => s!"Could not parse HTTP response, error: {fault.message}"
  | invalidStatusCode code => s!"Invalid HTTP status code: {code}"

end HttpError

end ProxyTunnel
