import ProxyTunnel.Endpoint
import ProxyTunnel.Stream.Fault

/-!
# SOCKS errors

Why a SOCKS message can not be built, or was not understood.
-/

namespace ProxyTunnel

/-- The fields of a SOCKS4a request that end with a zero byte. -/
inductive ClosedField where
  | userId
  | hostName
  deriving DecidableEq, Repr

/-- The name of a field that ends with a zero byte. -/
def ClosedField.display : ClosedField → String
  | .userId => "SOCKS4 user ID"
  | .hostName => "SOCKS4a host name"

inductive SocksError where
  | read (fault : Fault)
  | invalidVersion (version : UInt8)
  | invalidReplyVersion (version : UInt8)
  | invalidAddressType (type : UInt8)
  /-- SOCKS4 knows no IPv6. -/
  | unsupportedAddress (address : Endpoint)
  /-- A field that ends with a zero byte contains one. -/
  | nullByte (field : ClosedField)
  | domainTooLong (length : Nat)
  | userNameTooLong (length : Nat)
  | passwordTooLong (length : Nat)
  deriving DecidableEq, Repr

namespace SocksError

/-- The error in words. -/
def message : SocksError → String
  | read fault => s!"Could not read stream, error: {fault.message}"
  | invalidVersion version => s!"Invalid SOCKS version: {version}"
  | invalidReplyVersion version => s!"Invalid SOCKS4 reply version: {version}"
  | invalidAddressType type => s!"Invalid address type: {type}"
  | unsupportedAddress address => s!"SOCKS4 can not address {address.display}"
  | nullByte field => s!"{field.display} must not contain a NUL byte"
  | domainTooLong length => s!"Domain name is too long: {length} bytes"
  | userNameTooLong length => s!"User name is too long: {length} bytes"
  | passwordTooLong length => s!"Password is too long: {length} bytes"

end SocksError

end ProxyTunnel
