import ProxyTunnel.Stream.Conversation

/-!
# Carriers

A carrier is a byte stream that may carry TLS sessions, one inside another: level zero is the stream
itself, and a session opened on a level makes the next one. Every operation names the level it
means. An operation may never get ready (`stalled`); then whoever waits for it stands still.
-/

namespace ProxyTunnel

/-- A byte stream that may carry sessions. -/
class Carrier (σ : Type) where
  /-- Reads once, at most `max` bytes. An end shows as no bytes. -/
  read : (level : Nat) → (max : Nat) → σ → Outcome Fault Bytes × σ
  /-- Reads exactly `n` bytes, whatever interruptions there are; `atEnd` is the fault if the stream
  ends before. -/
  receive : (level : Nat) → (n : Nat) → (atEnd : Fault) → σ → Outcome Fault (Vector UInt8 n) × σ
  /-- Reads all bytes up to the end. -/
  drain : (level : Nat) → σ → Outcome Fault Bytes × σ
  /-- Writes once and says how many bytes were taken. -/
  accept : (level : Nat) → Bytes → σ → Outcome Fault Nat × σ
  flush : (level : Nat) → σ → Outcome Fault Unit × σ
  /-- Ends the writing direction. -/
  shutdown : (level : Nat) → σ → Outcome Fault Unit × σ
  /-- Whether whoever waits for the carrier has been told to give up. -/
  isCancelled : σ → Bool

namespace Carrier

variable {σ : Type} [Carrier σ]

/-- Writes all bytes, in as many writes as it takes; `fuel` bounds their number. -/
def acceptAll (level : Nat) : (fuel : Nat) → Bytes → σ → Outcome Fault Unit × σ
  | 0, _, s => (.ok (), s)
  | fuel + 1, bs, s =>
    if bs = [] then (.ok (), s)
    else match accept level bs s with
      | (.ok 0, s) => (.error .writeZero, s)
      | (.ok n, s) => acceptAll level fuel (bs.drop n) s
      | (.error e, s) => (.error e, s)
      | (.stalled, s) => (.stalled, s)

/-- Writes all bytes. Each write takes at least one, so there are no more writes than bytes. -/
def write (level : Nat) (bs : Bytes) (s : σ) : Outcome Fault Unit × σ :=
  acceptAll level bs.length bs s

end Carrier

namespace Conversation

variable {ε α σ : Type} [Carrier σ]

/-- Runs a conversation on one level of a carrier. -/
def run (level : Nat) : Conversation ε α → σ → Outcome ε α × σ
  | .done a, s => (.ok a, s)
  | .fail e, s => (.error e, s)
  | .write m f next, s =>
    match Carrier.write level m s with
    | (.ok (), s) => run level next s
    | (.error e, s) => (.error (f e), s)
    | (.stalled, s) => (.stalled, s)
  | .flush f next, s =>
    match Carrier.flush level s with
    | (.ok (), s) => run level next s
    | (.error e, s) => (.error (f e), s)
    | (.stalled, s) => (.stalled, s)
  | .receive n z f next, s =>
    match Carrier.receive level n z s with
    | (.ok v, s) => run level (next v) s
    | (.error e, s) => (.error (f e), s)
    | (.stalled, s) => (.stalled, s)

end Conversation

end ProxyTunnel
