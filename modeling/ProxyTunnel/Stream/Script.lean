import ProxyTunnel.Tls.Opening
import ProxyTunnel.Tls.Session

/-!
# Scripted streams

A byte stream whose behaviour is written down beforehand: what its reads deliver and when, how much
its writes take, and which operations fail. It keeps a record of what was sent and how far it was
read. Nobody speaks TLS on it, so it carries no session.
-/

namespace ProxyTunnel

/-- What a scripted stream does next when it is read. -/
inductive ReadItem where
  /-- Delivers bytes; one read gets at most what is left of one item. -/
  | data (bytes : Bytes)
  /-- Fails one read. -/
  | fault (f : Fault)
  /-- Ends the stream for good. -/
  | ended
  /-- Never gets ready. -/
  | stall
  /-- Tells whoever waits to give up, and never gets ready. -/
  | cancel
  /-- Waits until so many bytes have been written. -/
  | wait (n : Nat)
  /-- Waits until the writing direction was ended. -/
  | waitShutdown
  deriving DecidableEq, Repr

/-- Bytes that were flushed together, and how far the stream had been read when the first of them
was written. -/
structure Message where
  readBefore : Nat
  bytes : Bytes
  deriving DecidableEq, Repr

/-- A scripted stream with all that has happened on it. -/
structure Script where
  items : List ReadItem := []
  /-- The most bytes that one write takes. -/
  maxWrite : Option Nat := none
  /-- So many bytes are taken in all; then writes fail, or take nothing if no fault is given. -/
  writeLimit : Option (Nat × Option Fault) := none
  /-- Which flush fails, counted from one. -/
  flushFault : Option (Nat × Fault) := none
  shutdownFault : Option Fault := none
  /-- How many bytes have been read. -/
  consumed : Nat := 0
  /-- What was written and flushed. -/
  sent : List Message := []
  /-- What was written and not flushed, if anything. -/
  pending : Option Message := none
  /-- How many bytes have been written. -/
  accepted : Nat := 0
  flushes : Nat := 0
  isShut : Bool := false
  isCancelled : Bool := false
  deriving Repr

namespace Script

/-- Why reading stopped. -/
inductive Stop where
  /-- All bytes asked for are there. -/
  | complete
  | ended
  | fault (f : Fault)
  | stalled
  | cancelled
  deriving DecidableEq, Repr

/-- What was read: the bytes, why reading stopped, and the items left. -/
structure Fetched where
  bytes : Bytes
  stop : Stop
  items : List ReadItem

/-- Bytes in front of what was read. -/
def Fetched.cons (bs : Bytes) (f : Fetched) : Fetched := { f with bytes := bs ++ f.bytes }

/-- The item that delivers the rest of some bytes, if there is a rest. -/
def putBack (bs : Bytes) (items : List ReadItem) : List ReadItem :=
  if bs = [] then items else .data bs :: items

/-- Reads `need` bytes. Interruptions are passed over. -/
def fetch (written : Nat) (isShut : Bool) : List ReadItem → (need : Nat) → Fetched
  | items, 0 => ⟨[], .complete, items⟩
  | [], _ + 1 => ⟨[], .ended, []⟩
  | .data bs :: items, n + 1 =>
    if n + 1 ≤ bs.length then ⟨bs.take (n + 1), .complete, putBack (bs.drop (n + 1)) items⟩
    else (fetch written isShut items (n + 1 - bs.length)).cons bs
  | .fault .interrupted :: items, n + 1 => fetch written isShut items (n + 1)
  | .fault f :: items, _ + 1 => ⟨[], .fault f, items⟩
  | .ended :: items, _ + 1 => ⟨[], .ended, .ended :: items⟩
  | .stall :: items, _ + 1 => ⟨[], .stalled, .stall :: items⟩
  | .cancel :: items, _ + 1 => ⟨[], .cancelled, .cancel :: items⟩
  | .wait k :: items, n + 1 =>
    if k ≤ written then fetch written isShut items (n + 1)
    else ⟨[], .stalled, .wait k :: items⟩
  | .waitShutdown :: items, n + 1 =>
    if isShut then fetch written isShut items (n + 1)
    else ⟨[], .stalled, .waitShutdown :: items⟩

/-- Reads once, at most `max` bytes. An end shows as no bytes. -/
def fetchSome (written : Nat) (isShut : Bool) (max : Nat) : List ReadItem → Fetched
  | [] => ⟨[], .ended, []⟩
  | .data bs :: items =>
    if bs = [] then fetchSome written isShut max items
    else ⟨bs.take max, .complete, putBack (bs.drop max) items⟩
  | .fault f :: items => ⟨[], .fault f, items⟩
  | .ended :: items => ⟨[], .ended, .ended :: items⟩
  | .stall :: items => ⟨[], .stalled, .stall :: items⟩
  | .cancel :: items => ⟨[], .cancelled, .cancel :: items⟩
  | .wait k :: items =>
    if k ≤ written then fetchSome written isShut max items else ⟨[], .stalled, .wait k :: items⟩
  | .waitShutdown :: items =>
    if isShut then fetchSome written isShut max items
    else ⟨[], .stalled, .waitShutdown :: items⟩

/-- Reads all bytes up to the end. -/
def fetchAll (written : Nat) (isShut : Bool) : List ReadItem → Fetched
  | [] => ⟨[], .ended, []⟩
  | .data bs :: items => (fetchAll written isShut items).cons bs
  | .fault f :: items => ⟨[], .fault f, items⟩
  | .ended :: items => ⟨[], .ended, .ended :: items⟩
  | .stall :: items => ⟨[], .stalled, .stall :: items⟩
  | .cancel :: items => ⟨[], .cancelled, .cancel :: items⟩
  | .wait k :: items =>
    if k ≤ written then fetchAll written isShut items else ⟨[], .stalled, .wait k :: items⟩
  | .waitShutdown :: items =>
    if isShut then fetchAll written isShut items else ⟨[], .stalled, .waitShutdown :: items⟩

/-- The stream after reading. -/
def advance (s : Script) (f : Fetched) : Script :=
  { s with
    items := f.items
    consumed := s.consumed + f.bytes.length
    isCancelled := s.isCancelled || f.stop = .cancelled }

/-- The bytes that no read has delivered yet. -/
def unread (s : Script) : Bytes :=
  s.items.flatMap fun | .data bs => bs | _ => []

theorem length_fetch (written : Nat) (isShut : Bool) (items : List ReadItem) (n : Nat)
    (h : (fetch written isShut items n).stop = .complete) :
    (fetch written isShut items n).bytes.length = n := by
  fun_induction fetch written isShut items n with
  | case1 items => rfl
  | case3 bs items n hn => exact List.length_take_of_le hn
  | case4 bs items n hn ih =>
    show (bs ++ _).length = n + 1
    rw [List.length_append, ih h]
    omega
  | case5 items n ih => exact ih h
  | case10 k items n hk ih => exact ih h
  | case12 items n hs ih => exact ih h
  | _ => cases h

/-- Reads exactly `n` bytes. -/
def receive (n : Nat) (atEnd : Fault) (s : Script) : Outcome Fault (Vector UInt8 n) × Script :=
  let f := fetch s.accepted s.isShut s.items n
  let s' := s.advance f
  if h : f.stop = .complete then
    (.ok ⟨f.bytes.toArray, length_fetch s.accepted s.isShut s.items n h⟩, s')
  else match f.stop with
    | .ended => (.error atEnd, s')
    | .fault e => (.error e, s')
    | _ => (.stalled, s')

/-- Reads once, at most `max` bytes. -/
def read (max : Nat) (s : Script) : Outcome Fault Bytes × Script :=
  let f := fetchSome s.accepted s.isShut max s.items
  let s' := s.advance f
  match f.stop with
  | .complete | .ended => (.ok f.bytes, s')
  | .fault e => (.error e, s')
  | .stalled | .cancelled => (.stalled, s')

/-- Reads all bytes up to the end. -/
def drain (s : Script) : Outcome Fault Bytes × Script :=
  let f := fetchAll s.accepted s.isShut s.items
  let s' := s.advance f
  match f.stop with
  | .complete | .ended => (.ok f.bytes, s')
  | .fault e => (.error e, s')
  | .stalled | .cancelled => (.stalled, s')

/-- A bound on the number of reads that deliver or fail. -/
def size (s : Script) : Nat := s.items.length + s.unread.length

/-- How many of `n` bytes the next write takes. -/
def room (s : Script) (n : Nat) : Nat :=
  let n := (s.maxWrite.map (min n)).getD n
  (s.writeLimit.map fun l => min n (l.1 - s.accepted)).getD n

/-- The stream after taking bytes. -/
def take (s : Script) (bs : Bytes) : Script :=
  if bs = [] then s
  else
    let m := match s.pending with
      | some m => { m with bytes := m.bytes ++ bs }
      | none => ⟨s.consumed, bs⟩
    { s with pending := some m, accepted := s.accepted + bs.length }

/-- Writes once. -/
def accept (bs : Bytes) (s : Script) : Outcome Fault Nat × Script :=
  match s.writeLimit with
  | some (limit, some f) =>
    if bs ≠ [] ∧ limit ≤ s.accepted then (.error f, s)
    else (.ok (s.room bs.length), s.take (bs.take (s.room bs.length)))
  | _ => (.ok (s.room bs.length), s.take (bs.take (s.room bs.length)))

/-- Flushes what was written. -/
def flush (s : Script) : Outcome Fault Unit × Script :=
  let s := { s with flushes := s.flushes + 1 }
  match s.flushFault with
  | some (n, f) =>
    if n = s.flushes then (.error f, s)
    else (.ok (), { s with sent := s.sent ++ s.pending.toList, pending := none })
  | none => (.ok (), { s with sent := s.sent ++ s.pending.toList, pending := none })

/-- Ends the writing direction. -/
def shutdown (s : Script) : Outcome Fault Unit × Script :=
  match s.shutdownFault with
  | some f => (.error f, s)
  | none => (.ok (), { s with isShut := true })

instance : Carrier Script where
  read
    | 0, max, s => read max s
    | _ + 1, _, s => (.stalled, s)
  receive
    | 0, n, z, s => receive n z s
    | _ + 1, _, _, s => (.stalled, s)
  drain
    | 0, s => drain s
    | _ + 1, s => (.stalled, s)
  accept
    | 0, bs, s => accept bs s
    | _ + 1, _, s => (.stalled, s)
  flush
    | 0, s => flush s
    | _ + 1, s => (.stalled, s)
  shutdown
    | 0, s => shutdown s
    | _ + 1, s => (.stalled, s)
  isCancelled := Script.isCancelled

instance : SessionCarrier Script where
  openSession level name _ s := Tls.openUnanswered level name s

end Script

end ProxyTunnel
