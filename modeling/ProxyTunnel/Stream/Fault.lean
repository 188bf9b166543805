/-!
# Faults of byte streams

How an operation on a byte stream fails.
-/

namespace ProxyTunnel

/-- Why a TLS session could not be opened. -/
inductive TlsFault where
  /-- No known authority vouches for the certificate. -/
  | untrustedCertificate
  /-- The other end sent something that is not TLS. -/
  | corruptMessage
  | endOfStream
  deriving DecidableEq, Repr

/-- The cause in words. -/
def TlsFault.message : TlsFault → String
  | .untrustedCertificate => "invalid peer certificate: UnknownIssuer"
  | .corruptMessage => "received corrupt message of type InvalidContentType"
  | .endOfStream => "tls handshake eof"

inductive Fault where
  | connectionReset
  | brokenPipe
  | timedOut
  | interrupted
  /-- The stream ended where a byte or a number was to come. -/
  | unexpectedEnd
  /-- The stream ended inside a block of known size. -/
  | earlyEnd
  /-- The stream took none of the bytes written. -/
  | writeZero
  /-- The stream took none of the bytes that were being copied to it. -/
  | copyZero
  | tls (cause : TlsFault)
  /-- A fault of the operating system, in its words. -/
  | system (text : String)
  deriving DecidableEq, Repr

namespace Fault

/-- The fault in words. -/
def message : Fault → String
  | .connectionReset => "connection reset"
  | .brokenPipe => "broken pipe"
  | .timedOut => "timed out"
  | .interrupted => "operation interrupted"
  | .unexpectedEnd => "unexpected end of file"
  | .earlyEnd => "early eof"
  | .writeZero => "write zero"
  | .copyZero => "write zero byte into writer"
  | .tls cause => cause.message
  | .system text => text

/-- Whether the fault is that the stream ended too early. -/
def isEnd : Fault → Bool
  | .unexpectedEnd | .earlyEnd => true
  | _ => false

end Fault

end ProxyTunnel
