import ProxyTunnel.Socks.Address
import ProxyTunnel.Socks.Version
import ProxyTunnel.Credential

/-!
# SOCKS5 messages

The client offers methods of authentication (`Greeting`), the server selects one (`Selection`). The
method with user name and password has a message (`Login`) and an answer (`LoginReply`) of its own.
Then comes the request to connect (`Request`) and its answer (`Reply`).
-/

namespace ProxyTunnel.Socks5

open Text Net Socks

/-- A method of authentication. -/
inductive Method where
  | noAuthentication
  /-- Offered by some servers, but never by this client. -/
  | gssapi
  | userPassword
  /-- None of the methods offered will do. -/
  | notAcceptable
  | unassigned (code : UInt8)
  deriving DecidableEq, Repr

namespace Method

/-- The byte for a method. -/
def code : Method → UInt8
  | .noAuthentication => 0
  | .gssapi => 1
  | .userPassword => 2
  | .notAcceptable => 0xFF
  | .unassigned code => code

/-- The method that a byte stands for. -/
def ofCode (code : UInt8) : Method :=
  match code with
  | 0 => .noAuthentication
  | 1 => .gssapi
  | 2 => .userPassword
  | 0xFF => .notAcceptable
  | _ => .unassigned code

theorem code_ofCode (c : UInt8) : (ofCode c).code = c := by
  unfold ofCode; split <;> rfl

/-- The method in words. -/
def display : Method → String
  | .noAuthentication => "No Authentication"
  | .gssapi => "GSSAPI"
  | .userPassword => "Username/password authentication method"
  | .notAcceptable => "Not acceptable authentication method"
  | .unassigned code => s!"Unassigned authentication method {Numeral.hexByte code}"

/-- The methods without repetitions. -/
def distinct : List Method → List Method
  | [] => []
  | m :: ms => if m ∈ ms then distinct ms else m :: distinct ms

end Method

/-- The offer of methods that opens a conversation. -/
structure Greeting where
  /-- The methods, no two of them the same. -/
  methods : List Method
  deriving Repr

namespace Greeting

/-- The offer of some methods, of which repetitions do not count. -/
def ofMethods (ms : List Method) : Greeting := ⟨Method.distinct ms⟩

/-- Whether a method is offered. -/
def offers (g : Greeting) (m : Method) : Bool := decide (m ∈ g.methods)

/-- The greeting as it is sent, methods in the order of their codes. -/
def toBytes (g : Greeting) : Bytes :=
  let codes := g.methods.map Method.code
  Version.v5.code :: UInt8.ofNat codes.length :: codes.mergeSort

/-- How many bytes the greeting takes. -/
def size (g : Greeting) : Nat := 1 + 1 + g.methods.length

theorem length_toBytes (g : Greeting) : g.toBytes.length = g.size := by
  simp [toBytes, size]; omega

end Greeting

/-- The method that a server selects. -/
structure Selection where
  method : Method
  deriving DecidableEq, Repr

/-- The selection in two bytes. -/
def Selection.ofVector (v : Vector UInt8 2) : Except SocksError Selection :=
  let (version, method) := Word.pair v
  if version = Version.v5.code then .ok ⟨.ofCode method⟩ else .error (.invalidVersion version)

/-- Waits for the selected method. -/
def Selection.receive : Conversation SocksError Selection := do
  let v ← Conversation.block 2 .read
  Conversation.ofExcept (Selection.ofVector v)

/-- The message that presents user name and password. -/
structure Login where
  userName : Bytes
  password : Bytes
  deriving DecidableEq, Repr

namespace Login

/-- The message for a user name and a password that fit behind length bytes. -/
def build (userName password : Bytes) : Except SocksError Login :=
  if maxFieldLength < userName.length then .error (.userNameTooLong userName.length)
  else if maxFieldLength < password.length then .error (.passwordTooLong password.length)
  else .ok ⟨userName, password⟩

/-- The message for a credential. -/
def ofCredential (c : Credential) : Except SocksError Login :=
  build (Utf8.encode c.userName) (Utf8.encode c.password)

/-- The message as it is sent. -/
def toBytes (l : Login) : Bytes :=
  1 :: UInt8.ofNat l.userName.length :: l.userName ++
    UInt8.ofNat l.password.length :: l.password

/-- How many bytes the message takes. -/
def size (l : Login) : Nat := 3 + l.userName.length + l.password.length

theorem length_toBytes (l : Login) : l.toBytes.length = l.size := by
  simp [toBytes, size]; omega

/-- The message for diagnostics; the password is not shown. -/
def masked (l : Login) : String :=
  "UserPasswordHandshakeRequest \x7b user_name: " ++
    Quoted.quote (Utf8.decodeLossy l.userName) ++ ", .. \x7d"

end Login

/-- The answer to user name and password. -/
structure LoginReply where
  version : UInt8
  status : UInt8
  deriving DecidableEq, Repr

namespace LoginReply

/-- The answer in two bytes. -/
def ofVector (v : Vector UInt8 2) : LoginReply :=
  let (version, status) := Word.pair v
  ⟨version, status⟩

/-- Waits for the answer. -/
def receive : Conversation SocksError LoginReply := do
  let v ← Conversation.block 2 .read
  pure (ofVector v)

/-- Whether the server accepts user name and password. -/
def isSuccess (r : LoginReply) : Bool := r.version = 1 && r.status = 0

end LoginReply

/-- A request to connect. -/
structure Request where
  destination : Address
  deriving DecidableEq, Repr

namespace Request

/-- The request as it is sent. -/
def toBytes (r : Request) : Bytes := [Version.v5.code, 1, 0] ++ r.destination.toBytes

/-- How many bytes the request takes. -/
def size (r : Request) : Nat := 1 + 2 + r.destination.size

theorem length_toBytes (r : Request) : r.toBytes.length = r.size := by
  simp [toBytes, size, Address.length_toBytes]; omega

end Request

/-- How a server answers a request. -/
inductive ReplyField where
  | success
  | serverFailure
  | notAllowed
  | networkUnreachable
  | hostUnreachable
  | connectionRefused
  | ttlExpired
  | commandNotSupported
  | addressNotSupported
  | unknown (code : UInt8)
  deriving DecidableEq, Repr

namespace ReplyField

/-- The byte for an answer. -/
def code : ReplyField → UInt8
  | .success => 0
  | .serverFailure => 1
  | .notAllowed => 2
  | .networkUnreachable => 3
  | .hostUnreachable => 4
  | .connectionRefused => 5
  | .ttlExpired => 6
  | .commandNotSupported => 7
  | .addressNotSupported => 8
  | .unknown code => code

/-- The answer that a byte stands for. -/
def ofCode (code : UInt8) : ReplyField :=
  match code with
  | 0 => .success
  | 1 => .serverFailure
  | 2 => .notAllowed
  | 3 => .networkUnreachable
  | 4 => .hostUnreachable
  | 5 => .connectionRefused
  | 6 => .ttlExpired
  | 7 => .commandNotSupported
  | 8 => .addressNotSupported
  | _ => .unknown code

theorem code_ofCode (c : UInt8) : (ofCode c).code = c := by
  unfold ofCode; split <;> rfl

end ReplyField

/-- The answer to a request. -/
structure Reply where
  field : ReplyField
  /-- The address that the server uses for the connection. -/
  bound : Address
  deriving DecidableEq, Repr

namespace Reply

/-- The reply as it is sent. -/
def toBytes (r : Reply) : Bytes := [Version.v5.code, r.field.code, 0] ++ r.bound.toBytes

/-- The four bytes in front of the address: the answer and the type of the address. -/
def headOfVector (v : Vector UInt8 4) : Except SocksError (ReplyField × AddressType) :=
  let (version, field, _, type) := Word.quad v
  if version = Version.v5.code then (AddressType.ofCode type).map (ReplyField.ofCode field, ·)
  else .error (.invalidVersion version)

/-- Waits for a whole reply, with its address whatever it says, so that the next byte of the stream
is the first of the tunnel. -/
def receive : Conversation SocksError Reply := do
  let v ← Conversation.block 4 .read
  let (field, type) ← Conversation.ofExcept (headOfVector v)
  let bound ← Address.receiveBody type
  pure ⟨field, bound⟩

end Reply

end ProxyTunnel.Socks5
