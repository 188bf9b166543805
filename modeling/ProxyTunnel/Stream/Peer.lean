import ProxyTunnel.Tls.Opening
import ProxyTunnel.Tls.Session

/-!
# Peers that speak TLS

The other end of a carrier that accepts one TLS session. It is served in stages, first in the clear,
then inside the session: each stage waits for what the client has to say and answers it. Behind the
stages the peer closes the session, or drops the connection, or just reads on until the client is
gone. The peer does all it can whenever the client has done something (`Peer.react`), so a client
that waits for more than is there waits forever.

The certificate is the peer's own, so clients that check it refuse the session.
-/

namespace ProxyTunnel

/-- What a stage waits for. -/
inductive Demand where
  | exactly (n : Nat)
  /-- Everything up to an empty line. -/
  | head
  | toEnd
  deriving DecidableEq, Repr

namespace Demand

/-- The bytes up to an empty line, and what follows. -/
def splitHead? : Bytes → Option (Bytes × Bytes)
  | [] => none
  | b :: bs =>
    if b :: bs.take 3 = [13, 10, 13, 10] then some (b :: bs.take 3, bs.drop 3)
    else (splitHead? bs).map fun p => (b :: p.1, p.2)

/-- The bytes that are waited for, and what follows; none if they are not all there. -/
def split? (ended : Bool) (bs : Bytes) : Demand → Option (Bytes × Bytes)
  | .exactly n => if n ≤ bs.length then some (bs.take n, bs.drop n) else none
  | .head => splitHead? bs
  | .toEnd => if ended then some (bs, []) else none

end Demand

/-- One exchange, as the peer sees it. -/
structure Stage where
  demand : Demand
  reply : Bytes
  deriving DecidableEq, Repr

/-- What the peer does behind the stages. -/
inductive Closing where
  /-- Nothing. -/
  | quiet
  /-- Says that no more will come. -/
  | graceful
  /-- Drops the connection. -/
  | abrupt
  deriving DecidableEq, Repr

/-- Versions of TLS. They differ in who knows first that the session is open. -/
inductive TlsVersion where
  | v12
  | v13
  deriving DecidableEq, Repr

/-- How far the peer got with its stages. -/
structure Served where
  stages : List Stage
  /-- What each stage received. -/
  received : List Bytes
  /-- What the client wrote and no stage has taken. -/
  inbox : Bytes
  /-- What was replied and the client has not read. -/
  outbox : Bytes
  deriving DecidableEq, Repr

/-- Serves as many stages as the client's bytes are enough for. -/
def Served.advance (ended : Bool) (stages : List Stage) (received : List Bytes)
    (inbox outbox : Bytes) : Served :=
  match stages with
  | [] => ⟨[], received, inbox, outbox⟩
  | stage :: rest =>
    match stage.demand.split? ended inbox with
    | some (taken, inbox) =>
      advance ended rest (received ++ [taken]) inbox (outbox ++ stage.reply)
    | none => ⟨stage :: rest, received, inbox, outbox⟩

/-- What the peer knows of the session. -/
inductive SessionState where
  | absent
  /-- Open for the client; the peer waits for its last message. -/
  | unconfirmed (indication : Option String)
  | confirmed (indication : Option String)
  deriving DecidableEq, Repr

/-- A peer and what has happened between it and the client. -/
structure Peer where
  /-- In the clear. -/
  wire : Served
  /-- Inside the session. -/
  inside : Served
  closing : Closing := .quiet
  version : TlsVersion := .v13
  session : SessionState := .absent
  /-- How many bytes came outside the session after it was opened. -/
  strayed : Nat := 0
  /-- Whether the client has ended its writing direction. -/
  isShut : Bool := false
  /-- Whether the peer has dropped the connection. -/
  isGone : Bool := false
  /-- Whether the stages were cut short by something that is not TLS. -/
  isCut : Bool := false
  deriving Repr

namespace Peer

/-- A peer with stages in the clear and inside the session. -/
def ofStages (plain stages : List Stage) (closing : Closing) (version : TlsVersion) : Peer where
  wire := ⟨plain, [], [], []⟩
  inside := ⟨stages, [], [], []⟩
  closing := closing
  version := version

/-- Whether the peer has a session. -/
def isConfirmed (p : Peer) : Bool :=
  match p.session with
  | .confirmed _ => true
  | _ => false

/-- Serves stages that are not finished. -/
def serve (p : Peer) (served : Served) : Served :=
  .advance p.isShut served.stages served.received served.inbox served.outbox

/-- The peer behind its stages in the clear: what comes before a session must be TLS. -/
def reactWire (p : Peer) : Peer :=
  let p := { p with wire := p.serve p.wire }
  let isJunk := p.wire.stages = [] && Tls.headerSize ≤ p.wire.inbox.length
  { p with isGone := isJunk && decide (p.session = .absent) }

/-- The peer inside the session. -/
def reactInside (p : Peer) : Peer :=
  if Tls.headerSize ≤ p.strayed then { p with isGone := true, isCut := true }
  else
    let p := { p with inside := p.serve p.inside }
    if p.isShut then { p with isGone := true, isCut := p.inside.stages ≠ [] }
    else { p with isGone := p.inside.stages = [] && p.closing = .abrupt }

/-- The peer does all it can. -/
def react (p : Peer) : Peer :=
  if p.isGone then p else if p.isConfirmed then p.reactInside else p.reactWire

/-- Whether the peer has said that no more will come. -/
def hasFarewell (p : Peer) : Bool :=
  p.isConfirmed && p.inside.stages = [] && p.closing = .graceful

/-- The client's last message of opening the session, if it has not come yet. -/
def confirm (p : Peer) : Peer :=
  match p.session with
  | .unconfirmed indication => { p with session := .confirmed indication }
  | _ => p

/-- What the client can read on a level. -/
def outbox (level : Nat) (p : Peer) : Bytes :=
  match level with
  | 0 => p.wire.outbox
  | 1 => p.inside.outbox
  | _ => []

/-- The peer after the client has read a level up to some rest. -/
def setOutbox (level : Nat) (rest : Bytes) (p : Peer) : Peer :=
  match level with
  | 0 => { p with wire := { p.wire with outbox := rest } }
  | 1 => { p with inside := { p.inside with outbox := rest } }
  | _ => p

/-- What a client finds on a level behind all replies: a fault if the session just breaks off. -/
def atEnd (level : Nat) (p : Peer) : Outcome Fault Unit :=
  if level = 1 ∧ p.hasFarewell then .ok ()
  else if p.isGone then if level = 0 then .ok () else .error .unexpectedEnd
  else .stalled

/-- Reads once. -/
def read (level max : Nat) (p : Peer) : Outcome Fault Bytes × Peer :=
  let bs := p.outbox level
  if bs = [] then ((p.atEnd level).map fun _ => [], p)
  else (.ok (bs.take max), p.setOutbox level (bs.drop max))

/-- Reads exactly `n` bytes. -/
def receive (level n : Nat) (atEnd : Fault) (p : Peer) : Outcome Fault (Vector UInt8 n) × Peer :=
  let bs := p.outbox level
  if h : n ≤ bs.length then
    (.ok ⟨(bs.take n).toArray, by simp [h]⟩, p.setOutbox level (bs.drop n))
  else
    let o := match p.atEnd level with
      | .ok () => .error atEnd
      | .error f => .error f
      | .stalled => .stalled
    (o, p.setOutbox level [])

/-- Reads all bytes up to the end. -/
def drain (level : Nat) (p : Peer) : Outcome Fault Bytes × Peer :=
  ((p.atEnd level).map fun _ => p.outbox level, p.setOutbox level [])

/-- The peer with bytes from the client. -/
def deliver (level : Nat) (bs : Bytes) (p : Peer) : Peer :=
  match level with
  | 0 =>
    if p.session = .absent then { p with wire := { p.wire with inbox := p.wire.inbox ++ bs } }
    else { p with strayed := p.strayed + bs.length }
  | 1 => { p.confirm with inside := { p.inside with inbox := p.inside.inbox ++ bs } }
  | _ => p

/-- The client writes. -/
def accept (level : Nat) (bs : Bytes) (p : Peer) : Outcome Fault Nat × Peer :=
  if p.isGone || p.isShut then (.error .brokenPipe, p)
  else (.ok bs.length, (p.deliver level bs).react)

/-- The client ends its writing direction. -/
def shutdown (p : Peer) : Outcome Fault Unit × Peer :=
  if p.isShut then (.ok (), p)
  else if p.isGone then (.error .brokenPipe, p)
  else (.ok (), { p.confirm with isShut := true }.react)

instance : Carrier Peer where
  read := read
  receive := receive
  drain := drain
  accept := accept
  flush _ p := (.ok (), p)
  shutdown _ p := p.shutdown
  isCancelled _ := false

/-- The client opens the session. In front of it nothing may be left over, neither of what the
client wrote nor of what the peer replied. -/
def openSession (level : Nat) (name : Tls.ServerName) (verification : Verification) (p : Peer) :
    Outcome Fault Unit × Peer :=
  if level = 0 ∧ p.wire.stages = [] ∧ p.wire.inbox = [] ∧ p.wire.outbox = [] ∧ !p.isGone then
    match verification with
    | .webpki => (.error (.tls .untrustedCertificate), p)
    | .disabled =>
      match p.version with
      | .v12 => (.ok (), { p with session := .confirmed name.indication? }.react)
      | .v13 => (.ok (), { p with session := .unconfirmed name.indication? })
  else Tls.openUnanswered level name p

instance : SessionCarrier Peer where
  openSession := openSession

/-- The client drops the connection. Stages that wait for more are cut short. -/
def leave (p : Peer) : Peer :=
  if p.isGone then p
  else
    let w := p.wire
    { p with
      wire := .advance true w.stages w.received w.inbox w.outbox
      isGone := true
      isCut := p.isConfirmed && p.inside.stages ≠ [] }

/-- What a peer received by the stages, with the bytes of the one that was cut short. -/
def log (isCut : Bool) (served : Served) : List Bytes :=
  if isCut && served.stages ≠ [] then served.received ++ [served.inbox] else served.received

/-- What a peer has to tell of its client. -/
structure Report where
  plainReceived : List Bytes
  received : List Bytes
  /-- Whether the session was opened; unknown as long as the peer is at its stages in the clear. -/
  handshake : Option Bool
  /-- The name the client asked for; unknown without a session. -/
  indication : Option (Option String)
  /-- Behind the stages: whether the client said that no more will come, and what it wrote. -/
  ending : Option (Bool × Bytes)
  deriving DecidableEq, Repr

/-- What the peer has to tell. -/
def report (p : Peer) : Report :=
  let indication := match p.session with
    | .confirmed name => some name
    | _ => none
  let isPlain := p.wire.stages ≠ []
  { plainReceived := log (p.isGone && isPlain) p.wire
    received := log p.isCut p.inside
    handshake :=
      if p.isConfirmed then some true else if p.isGone && !isPlain then some false else none
    indication
    ending :=
      if p.isGone && p.isConfirmed && p.inside.stages = [] && p.closing ≠ .abrupt then
        some (p.isShut, p.inside.inbox)
      else none }

end Peer

end ProxyTunnel
