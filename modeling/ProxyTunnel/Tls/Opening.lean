import ProxyTunnel.Stream.Carrier
import ProxyTunnel.Tls.ServerName

/-!
# Opening a session where nobody speaks TLS

The client writes its first message and waits for a record. Whatever comes is not the answer to that
message, so the session is never opened; without a whole record the client waits on. The bytes of
the first message are random and no part of the model, only their number is.
-/

namespace ProxyTunnel.Tls

/-- How many bytes the first message takes. -/
def openingSize (name : ServerName) : Nat :=
  218 + match name with
    | .dns name => 9 + (ServerName.withoutTrailingDot name.toList).length
    | .ip _ => 0

/-- How many bytes the header of a record has. -/
def headerSize : Nat := 5

/-- The most bytes of a record behind its header. -/
def maxRecordSize : Nat := 0x4000 + 0x800

/-- How many bytes a record has behind its header; none if the header can not be one. -/
def recordSize? (header : Bytes) : Option Nat :=
  match header with
  | [type, major, _, hi, lo] =>
    let size := (Net.Word.ofBytes hi lo).toNat
    if 20 ≤ type ∧ type ≤ 24 ∧ major = 3 ∧ 0 < size ∧ size ≤ maxRecordSize then some size else none
  | _ => none

variable {σ : Type} [Carrier σ]

/-- Reads `need` bytes in as many reads as it takes; `fuel` bounds their number. -/
def collect (level : Nat) : (fuel : Nat) → (need : Nat) → σ → Outcome Fault Bytes × σ
  | 0, _, s => (.ok [], s)
  | fuel + 1, need, s =>
    if need = 0 then (.ok [], s)
    else match Carrier.read level need s with
      | (.ok [], s) => (.error (.tls .endOfStream), s)
      | (.ok bs, s) =>
        let (more, s) := collect level fuel (need - bs.length) s
        (more.map (bs ++ ·), s)
      | r => r

/-- Waits for one record, which can not be the right one. -/
def awaitRecord (level : Nat) (s : σ) : Outcome Fault Unit × σ :=
  match collect level headerSize headerSize s with
  | (.ok header, s) =>
    match recordSize? header with
    | none => (.error (.tls .corruptMessage), s)
    | some size =>
      match collect level size size s with
      | (.ok _, s) => (.error (.tls .corruptMessage), s)
      | (.error e, s) => (.error e, s)
      | (.stalled, s) => (.stalled, s)
  | (.error e, s) => (.error e, s)
  | (.stalled, s) => (.stalled, s)

/-- Tries to open a session on a stream whose other end speaks no TLS. -/
def openUnanswered (level : Nat) (name : ServerName) (s : σ) : Outcome Fault Unit × σ :=
  match Carrier.write level (List.replicate (openingSize name) 0) s with
  | (.ok (), s) =>
    match Carrier.flush level s with
    | (.ok (), s) => awaitRecord level s
    | r => r
  | r => r

end ProxyTunnel.Tls
