import ProxyTunnel.Stream.Carrier

/-!
# Relaying

Copying an input into a tunnel and the tunnel into an output, at the same time, until the other end
of the tunnel closes. The end of the input only ends the tunnel's writing direction.

Both directions move in steps (`stepUp`, `stepDown`), one operation on one stream each, and any
order of steps is a possible run (`play`). `Relay.run` lets the directions take turns.

On the way up each piece is flushed before the next is read. On the way down the output is flushed
when there is nothing more to read for the time being, and at the end. While the output keeps the
way down waiting, it may read ahead into what is left of its buffer (`readAhead`).
-/

namespace ProxyTunnel

/-- The most bytes one read takes. -/
def relayBufferSize : Nat := 8 * 1024

/-- The two directions of a relay. -/
inductive Relay.Direction where
  | up
  | down
  deriving DecidableEq, Repr

/-- The opposite direction. -/
def Relay.Direction.other : Relay.Direction → Relay.Direction
  | .up => .down
  | .down => .up

/-- What a relay does next. -/
inductive Relay.Move where
  | step (direction : Relay.Direction)
  /-- The way down reads before everything is written. -/
  | readAhead
  deriving DecidableEq, Repr

/-- Where the way up, from the input into the tunnel, stands. -/
inductive Uplink where
  | reading
  /-- Writing the rest of a piece of `size` bytes. -/
  | writing (rest : Bytes) (size : Nat)
  | flushing (size : Nat)
  /-- Ending the tunnel's writing direction. -/
  | closing
  | done
  deriving DecidableEq, Repr

/-- Where the way down, from the tunnel to the output, stands. -/
inductive Downlink where
  /-- Reading; `isDirty` if something was written since the last flush. -/
  | reading (isDirty : Bool)
  /-- Writing what was read. The buffer has room for so many bytes more; `isLast` if the tunnel has
  ended. -/
  | writing (rest : Bytes) (room : Nat) (isLast : Bool)
  /-- Flushing because the tunnel has ended. -/
  | ending
  /-- Flushing once more before the end. -/
  | finishing
  deriving DecidableEq, Repr

/-- A relay under way. -/
structure Relay (ρ ι ο : Type) where
  tunnel : ρ
  input : ι
  output : ο
  up : Uplink := .reading
  down : Downlink := .reading false
  /-- How many bytes were sent and flushed. -/
  sent : Nat := 0
  /-- How many bytes were written to the output. -/
  received : Nat := 0

/-- What became of a step. -/
inductive Progress where
  | moved
  /-- Nothing can be done before a stream gets ready. -/
  | waiting
  /-- The tunnel has ended, so many bytes were sent and received. -/
  | finished (sent received : Nat)
  | failed (fault : Fault)
  deriving DecidableEq, Repr

/-- Whether the relay has come to its end. -/
def Progress.isOver : Progress → Bool
  | .finished _ _ | .failed _ => true
  | _ => false

namespace Relay

variable {ρ ι ο : Type} [Carrier ρ] [Carrier ι] [Carrier ο]

/-- A step of the way up. -/
def stepUp (r : Relay ρ ι ο) : Progress × Relay ρ ι ο :=
  match r.up with
  | .reading =>
    let (o, s) := Carrier.read 0 relayBufferSize r.input
    let r := { r with input := s }
    match o with
    | .ok [] => (.moved, { r with up := .closing })
    | .ok bs => (.moved, { r with up := .writing bs bs.length })
    | .error e => (.failed e, r)
    | .stalled => (.waiting, r)
  | .writing rest size =>
    if rest = [] then (.moved, { r with up := .flushing size })
    else
      let (o, s) := Carrier.accept 0 rest r.tunnel
      let r := { r with tunnel := s }
      match o with
      | .ok 0 => (.failed .writeZero, r)
      | .ok n => (.moved, { r with up := .writing (rest.drop n) size })
      | .error e => (.failed e, r)
      | .stalled => (.waiting, r)
  | .flushing size =>
    let (o, s) := Carrier.flush 0 r.tunnel
    let r := { r with tunnel := s }
    match o with
    | .ok () => (.moved, { r with up := .reading, sent := r.sent + size })
    | .error e => (.failed e, r)
    | .stalled => (.waiting, r)
  | .closing =>
    let (o, s) := Carrier.shutdown 0 r.tunnel
    let r := { r with tunnel := s }
    match o with
    | .ok () => (.moved, { r with up := .done })
    | .error e => (.failed e, r)
    | .stalled => (.waiting, r)
  | .done => (.waiting, r)

/-- Flushes the output on the way to another state. -/
def flushOutput (next : Downlink) (r : Relay ρ ι ο) : Progress × Relay ρ ι ο :=
  let (o, s) := Carrier.flush 0 r.output
  let r := { r with output := s }
  match o with
  | .ok () => (.moved, { r with down := next })
  | .error e => (.failed e, r)
  | .stalled => (.waiting, r)

/-- A step of the way down. -/
def stepDown (r : Relay ρ ι ο) : Progress × Relay ρ ι ο :=
  match r.down with
  | .reading isDirty =>
    let (o, s) := Carrier.read 0 relayBufferSize r.tunnel
    let r := { r with tunnel := s }
    match o with
    | .ok [] => (.moved, { r with down := .ending })
    | .ok bs => (.moved, { r with down := .writing bs (relayBufferSize - bs.length) false })
    | .error e => (.failed e, r)
    | .stalled => if isDirty then r.flushOutput (.reading false) else (.waiting, r)
  | .writing rest room isLast =>
    if rest = [] then (.moved, { r with down := if isLast then .ending else .reading true })
    else
      let (o, s) := Carrier.accept 0 rest r.output
      let r := { r with output := s }
      match o with
      | .ok 0 => (.failed .copyZero, r)
      | .ok n =>
        (.moved, { r with down := .writing (rest.drop n) room isLast, received := r.received + n })
      | .error e => (.failed e, r)
      | .stalled => (.waiting, r)
  | .ending => r.flushOutput .finishing
  | .finishing =>
    let (o, s) := Carrier.flush 0 r.output
    let r := { r with output := s }
    match o with
    | .ok () => (.finished r.sent r.received, r)
    | .error e => (.failed e, r)
    | .stalled => (.waiting, r)

/-- Reads on while the way down is writing. Elsewhere there is nothing to read ahead of. -/
def readAhead (r : Relay ρ ι ο) : Progress × Relay ρ ι ο :=
  match r.down with
  | .writing rest (room + 1) false =>
    let (o, s) := Carrier.read 0 (room + 1) r.tunnel
    let r := { r with tunnel := s }
    match o with
    | .ok [] => (.moved, { r with down := .writing rest (room + 1) true })
    | .ok bs => (.moved, { r with down := .writing (rest ++ bs) (room + 1 - bs.length) false })
    | .error e => (.failed e, r)
    | .stalled => (.waiting, r)
  | _ => (.waiting, r)

/-- A step of one direction. -/
def step (direction : Direction) : Relay ρ ι ο → Progress × Relay ρ ι ο :=
  match direction with
  | .up => stepUp
  | .down => stepDown

/-- What a move comes to. -/
def move : Move → Relay ρ ι ο → Progress × Relay ρ ι ο
  | .step direction => step direction
  | .readAhead => readAhead

/-- Makes moves in the given order, up to the one with which the relay is over. -/
def play : List Move → Relay ρ ι ο → Progress × Relay ρ ι ο
  | [], r => (.moved, r)
  | m :: ms, r => if (r.move m).1.isOver then r.move m else play ms (r.move m).2

/-- Lets the directions take turns; each goes on until it has to wait. `isIdle` says that the other
one waits and nothing has happened since; when both wait, the relay stands still. At most `fuel`
steps are made. -/
def run : (fuel : Nat) → (direction : Direction) → (isIdle : Bool) → Relay ρ ι ο →
    Outcome Fault (Nat × Nat) × Relay ρ ι ο
  | 0, _, _, r => (.stalled, r)
  | fuel + 1, direction, isIdle, r =>
    match r.step direction with
    | (.finished sent received, r) => (.ok (sent, received), r)
    | (.failed e, r) => (.error e, r)
    | (.moved, r) => run fuel direction false r
    | (.waiting, r) => if isIdle then (.stalled, r) else run fuel direction.other true r

end Relay

end ProxyTunnel
