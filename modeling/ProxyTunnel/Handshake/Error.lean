import ProxyTunnel.Socks.Version5
import ProxyTunnel.Http.Error

/-!
# Handshake errors

Why a handshake with a proxy server failed, the kind of failure, and the code by which the server
refused the tunnel. SOCKS and HTTP errors turn into handshake errors.
-/

namespace ProxyTunnel

open Text

/-- The kinds of failures. -/
inductive ErrorKind where
  /-- The server sent something the protocol does not allow. -/
  | protocolViolation
  /-- The server demands a credential, but none is known. -/
  | authenticationRequired
  /-- The server declined the credential. -/
  | authenticationRejected
  /-- A part of the credential does not fit into its field. Nothing was sent. -/
  | credentialTooLong
  /-- The server refused to connect to the target. -/
  | connectRejected
  /-- The stream ended inside a reply. -/
  | streamTruncated
  | cancelled
  /-- The protocol can not express the target. Nothing was sent. -/
  | invalidTarget
  | tls
  | io
  deriving DecidableEq, Repr

/-- The kind in words. -/
def ErrorKind.display : ErrorKind → String
  | .protocolViolation => "protocol violation"
  | .authenticationRequired => "authentication required"
  | .authenticationRejected => "authentication rejected"
  | .credentialTooLong => "credential too long"
  | .connectRejected => "connect rejected"
  | .streamTruncated => "stream truncated"
  | .cancelled => "cancelled"
  | .invalidTarget => "invalid target"
  | .tls => "TLS failure"
  | .io => "I/O failure"

/-- The parts of a credential. -/
inductive CredentialPart where
  | userName
  | password
  deriving DecidableEq, Repr

/-- The name of a part of a credential. -/
def CredentialPart.display : CredentialPart → String
  | .userName => "user name"
  | .password => "password"

inductive HandshakeError where
  | write (fault : Fault)
  | flush (fault : Fault)
  | read (fault : Fault)
  | streamTruncated
  | invalidSocksVersion (version : UInt8)
  | invalidSocks4ReplyVersion (version : UInt8)
  | invalidSocksAddressType (type : UInt8)
  | unsupportedSocksMethod (method : Socks5.Method)
  | unsupportedTargetAddress (address : Endpoint)
  | nullByte (field : ClosedField)
  | domainTooLong (length : Nat)
  | credentialTooLong (part : CredentialPart) (length : Nat)
  | authenticationRequired
  | authenticationRejected (version status : UInt8)
  | connectRejected (code : Nat)
  | invalidHttpHeaderValue (header : GuardedHeader)
  | parseHttpResponse (fault : HeadFault)
  | invalidHttpStatusCode (code : Nat)
  | httpResponseTooLarge (limit : Nat)
  deriving DecidableEq, Repr

namespace HandshakeError

/-- The error in words. -/
def message : HandshakeError → String
  | write fault => s!"Could not write stream, error: {fault.message}"
  | flush fault => s!"Could not flush stream, error: {fault.message}"
  | read fault => s!"Could not read stream, error: {fault.message}"
  | streamTruncated => "Stream ended before the reply was complete"
  | invalidSocksVersion version => s!"Invalid SOCKS version: {Numeral.hexByte version}"
  | invalidSocks4ReplyVersion version =>
    s!"Invalid SOCKS4 reply version: {Numeral.hexByte version}"
  | invalidSocksAddressType type => s!"Invalid SOCKS address type: {Numeral.hexByte type}"
  | unsupportedSocksMethod method => s!"Unsupported SOCKS method: {method.display}"
  | unsupportedTargetAddress address => s!"Unsupported target address: {address.display}"
  | nullByte field => s!"{field.display} must not contain a NUL byte"
  | domainTooLong length => s!"Domain name is too long: {length} bytes"
  | credentialTooLong part length => s!"SOCKS5 {part.display} is too long: {length} bytes"
  | authenticationRequired =>
    "Proxy server requires authentication, but no credential is provided"
  | authenticationRejected version status =>
    "Proxy server rejected credential, version: " ++ Numeral.hexByte version ++ ", status: " ++
      Numeral.hexByte status
  | connectRejected code => s!"Proxy server rejected CONNECT request with code {code}"
  | invalidHttpHeaderValue header => s!"Invalid value for HTTP header `{header.display}`"
  | parseHttpResponse fault => s!"Could not parse HTTP response, error: {fault.message}"
  | invalidHttpStatusCode code => s!"Invalid HTTP status code: {code}"
  | httpResponseTooLarge limit => s!"HTTP response header exceeds {limit} bytes"

/-- The kind of an error. -/
def kind : HandshakeError → ErrorKind
  | write _ | flush _ | read _ => .io
  | streamTruncated => .streamTruncated
  | invalidSocksVersion _ | invalidSocks4ReplyVersion _ | invalidSocksAddressType _
  | unsupportedSocksMethod _ | parseHttpResponse _ | invalidHttpStatusCode _
  | httpResponseTooLarge _ => .protocolViolation
  | unsupportedTargetAddress _ | nullByte _ | domainTooLong _ | invalidHttpHeaderValue _ =>
    .invalidTarget
  | credentialTooLong _ _ => .credentialTooLong
  | authenticationRequired => .authenticationRequired
  | authenticationRejected _ _ => .authenticationRejected
  | connectRejected _ => .connectRejected

/-- The code by which the server refused the tunnel. -/
def rejectionCode? : HandshakeError → Option Nat
  | connectRejected code => some code
  | _ => none

/-- The error of a read: a stream that ends early has a case of its own. -/
def ofRead (fault : Fault) : HandshakeError :=
  if fault.isEnd then .streamTruncated else .read fault

/-- A SOCKS error during a handshake. -/
def ofSocks : SocksError → HandshakeError
  | .read fault => ofRead fault
  | .invalidVersion version => .invalidSocksVersion version
  | .invalidReplyVersion version => .invalidSocks4ReplyVersion version
  | .invalidAddressType type => .invalidSocksAddressType type
  | .unsupportedAddress address => .unsupportedTargetAddress address
  | .nullByte field => .nullByte field
  | .domainTooLong length => .domainTooLong length
  | .userNameTooLong length => .credentialTooLong .userName length
  | .passwordTooLong length => .credentialTooLong .password length

/-- An HTTP error during a handshake. -/
def ofHttp : HttpError → HandshakeError
  | .invalidHeaderValue header => .invalidHttpHeaderValue header
  | .parseResponse fault => .parseHttpResponse fault
  | .invalidStatusCode code => .invalidHttpStatusCode code

end HandshakeError

end ProxyTunnel
