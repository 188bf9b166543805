import ProxyTunnel.Http.Error
import ProxyTunnel.Text.Utf8

/-!
# Responses to CONNECT

The head of a response is read one byte after another: `Head.step` says what each byte does to what
is known of the head so far. A head that is complete or refused stays so. `ConnectResponse.parse`
runs the steps over a byte string and stops with the last byte of the head.

A head may start with empty lines. Lines end with a line feed, with or without a carriage return
before it. Of the status line only the status code is kept, of the header lines only their number,
which must not exceed `maxHeaders`.
-/

namespace ProxyTunnel.Http

/-- The most header lines a response may have. -/
def maxHeaders : Nat := 32

/-- What has been read of the head of a response. -/
inductive Head where
  /-- Nothing but empty lines. -/
  | start
  /-- The carriage return of an empty line before the status line. -/
  | startReturn
  /-- A part of the version; these bytes of it are still to come. -/
  | version (rest : Bytes)
  /-- The version up to its last digit. -/
  | versionDigit
  /-- The whole version. -/
  | versionEnd
  /-- A part of the status code, which has `left` more digits. -/
  | code (left : Nat) (status : Nat)
  /-- The whole status code. -/
  | codeEnd (status : Nat)
  /-- A carriage return behind the status code or the reason. -/
  | statusReturn (status : Nat)
  /-- A part of the reason. -/
  | reason (status : Nat)
  /-- The status line and `count` header lines. -/
  | lineStart (status count : Nat)
  /-- The carriage return of the empty line that ends the head. -/
  | endReturn (status : Nat)
  /-- A part of a header's name. -/
  | name (status count : Nat)
  /-- The colon behind a header's name and blanks. -/
  | blank (status count : Nat)
  /-- A part of a header's value. -/
  | value (status count : Nat)
  /-- A carriage return behind a header's value. -/
  | valueReturn (status count : Nat)
  /-- The whole head. -/
  | complete (status : Nat)
  | refused (fault : HeadFault)
  deriving DecidableEq, Repr

/-- The carriage return. -/
def cr : UInt8 := 13

/-- The line feed. -/
def lf : UInt8 := 10

/-- The value of a decimal digit. -/
def digit? (b : UInt8) : Option Nat := if 48 ≤ b ∧ b ≤ 57 then some (b.toNat - 48) else none

/-- Whether a byte may stand in the reason or in a header's value: blanks, visible characters, and
everything outside ASCII. -/
def isTextByte (b : UInt8) : Bool := b = 9 || (0x20 ≤ b && b ≤ 0x7E) || 0x80 ≤ b

/-- Whether a byte may stand in a header's name. -/
def isNameByte (b : UInt8) : Bool :=
  (48 ≤ b && b ≤ 57) || (65 ≤ b && b ≤ 90) || (97 ≤ b && b ≤ 122) ||
    (Text.Utf8.encode "!#$%&'*+-.^_`|~").contains b

namespace Head

/-- The head behind one more header line. -/
def countLine (status count : Nat) : Head :=
  if count < maxHeaders then .lineStart status (count + 1) else .refused .tooManyHeaders

/-- The head with one more byte. -/
def step (h : Head) (b : UInt8) : Head :=
  match h with
  | .start =>
    if b = cr then .startReturn
    else if b = lf then .start
    else if b = 72 then .version (Text.Utf8.encode "TTP/1.")
    else .refused .version
  | .startReturn => if b = lf then .start else .refused .newLine
  | .version [] => .refused .version
  | .version [e] => if b = e then .versionDigit else .refused .version
  | .version (e :: rest) => if b = e then .version rest else .refused .version
  | .versionDigit => if b = 48 || b = 49 then .versionEnd else .refused .version
  | .versionEnd => if b = 32 then .code 3 0 else .refused .version
  | .code left status =>
    match digit? b with
    | none => .refused .status
    | some d => if left ≤ 1 then .codeEnd (10 * status + d) else .code (left - 1) (10 * status + d)
  | .codeEnd status =>
    if b = 32 then .reason status
    else if b = cr then .statusReturn status
    else if b = lf then .lineStart status 0
    else .refused .status
  | .statusReturn status => if b = lf then .lineStart status 0 else .refused .status
  | .reason status =>
    if b = cr then .statusReturn status
    else if b = lf then .lineStart status 0
    else if isTextByte b then .reason status
    else .refused .status
  | .lineStart status count =>
    if b = cr then .endReturn status
    else if b = lf then .complete status
    else if isNameByte b then .name status count
    else .refused .headerName
  | .endReturn status => if b = lf then .complete status else .refused .newLine
  | .name status count =>
    if b = 58 then .blank status count
    else if isNameByte b then .name status count
    else .refused .headerName
  | .blank status count =>
    if b = 32 || b = 9 then .blank status count
    else if b = cr then .valueReturn status count
    else if b = lf then countLine status count
    else if isTextByte b then .value status count
    else .refused .headerValue
  | .value status count =>
    if b = cr then .valueReturn status count
    else if b = lf then countLine status count
    else if isTextByte b then .value status count
    else .refused .headerValue
  | .valueReturn status count =>
    if b = lf then countLine status count else .refused .headerValue
  | .complete status => .complete status
  | .refused fault => .refused fault

/-- The head with more bytes. -/
def run (h : Head) (bs : Bytes) : Head := bs.foldl step h

theorem run_append (h : Head) (s t : Bytes) : h.run (s ++ t) = (h.run s).run t := by
  simp [run]

end Head

/-- The response to a request for a tunnel. -/
structure ConnectResponse where
  status : Nat
  deriving DecidableEq, Repr

namespace ConnectResponse

/-- Whether the proxy opened the tunnel. -/
def isSuccess (r : ConnectResponse) : Bool := 200 ≤ r.status && r.status ≤ 299

/-- The response with a status code of three digits. No status code is below 100. -/
def ofStatus (status : Nat) : Except HttpError ConnectResponse :=
  if status < 100 then .error (.invalidStatusCode status) else .ok ⟨status⟩

/-- What a head tells: nothing while it is incomplete, then the response or why there is none. -/
def ofHead? (h : Head) : Option (Except HttpError ConnectResponse) :=
  match h with
  | .complete status => some (ofStatus status)
  | .refused fault => some (.error (.parseResponse fault))
  | _ => none

/-- Reads on from a head of `length` bytes. The result is none while the head is incomplete, else
the response and the length of the head. -/
def parseFrom (h : Head) (length : Nat) (bs : Bytes) :
    Except HttpError (Option (ConnectResponse × Nat)) :=
  match ofHead? h with
  | some r => r.map fun response => some (response, length)
  | none =>
    match bs with
    | [] => .ok none
    | b :: bs => parseFrom (h.step b) (length + 1) bs

/-- Reads the head of a response: the response and the length of its head, or none while the head is
incomplete. -/
def parse (bs : Bytes) : Except HttpError (Option (ConnectResponse × Nat)) :=
  parseFrom .start 0 bs

end ConnectResponse

end ProxyTunnel.Http
