import ProxyTunnel.Stream.Carrier

/-!
# Tunnels

A tunnel is a carrier under layers, one for every proxy server on the way. A layer passes bytes on
as they are, or through a TLS session. Reads and writes act on the level of the innermost session,
which is the number of TLS layers.
-/

namespace ProxyTunnel

/-- What a proxy server adds to the way of the bytes. -/
inductive Layer where
  | plain
  | tls
  deriving DecidableEq, Repr

/-- The name of a layer. -/
def Layer.display : Layer → String
  | .plain => "Plain"
  | .tls => "Tls"

/-- A carrier under layers. -/
structure Tunnel (σ : Type) where
  carrier : σ
  /-- The layers, the one added last first. -/
  layers : List Layer := []
  deriving Repr

namespace Tunnel

variable {σ ε α : Type}

/-- The level on which the tunnel's bytes go. -/
def level (t : Tunnel σ) : Nat := t.layers.count .tls

/-- Whether the last layer is a TLS session. -/
def isTls (t : Tunnel σ) : Bool := t.layers.head? = some .tls

/-- The tunnel for diagnostics, by its last layer. -/
def debug (t : Tunnel σ) : String :=
  match t.layers with
  | [] => "Io"
  | layer :: _ => layer.display ++ "(Io)"

/-- The tunnel with one more layer. -/
def push (layer : Layer) (t : Tunnel σ) : Tunnel σ := { t with layers := layer :: t.layers }

/-- The stream the last layer was put on. A TLS session in between is left without a farewell. -/
def inner (t : Tunnel σ) : Tunnel σ := { t with layers := t.layers.tail }

/-- An operation on the carrier, at the tunnel's level. -/
def act (f : Nat → σ → Outcome ε α × σ) (t : Tunnel σ) : Outcome ε α × Tunnel σ :=
  let (o, s) := f t.level t.carrier
  (o, { t with carrier := s })

variable [Carrier σ]

/-- Runs a conversation. -/
def converse (c : Conversation ε α) : Tunnel σ → Outcome ε α × Tunnel σ := act fun level => c.run level

/-- Writes all bytes. -/
def write (bs : Bytes) : Tunnel σ → Outcome Fault Unit × Tunnel σ :=
  act fun level => Carrier.write level bs

/-- Writes the parts one behind another, as far as one write takes them, and says how far. -/
def writeParts (parts : List Bytes) : Tunnel σ → Outcome Fault Nat × Tunnel σ :=
  act fun level => Carrier.accept level parts.flatten

def flush : Tunnel σ → Outcome Fault Unit × Tunnel σ := act Carrier.flush

/-- Ends the writing direction. -/
def shutdown : Tunnel σ → Outcome Fault Unit × Tunnel σ := act Carrier.shutdown

/-- Reads exactly `n` bytes. -/
def receive (n : Nat) : Tunnel σ → Outcome Fault (Vector UInt8 n) × Tunnel σ :=
  act fun level => Carrier.receive level n .earlyEnd

/-- Reads all bytes up to the end. -/
def drain : Tunnel σ → Outcome Fault Bytes × Tunnel σ := act Carrier.drain

/-- Writes all bytes to the stream below the last layer. -/
def writeInner (bs : Bytes) (t : Tunnel σ) : Outcome Fault Unit × Tunnel σ :=
  let (o, below) := t.inner.write bs
  (o, { t with carrier := below.carrier })

end Tunnel

/-- A tunnel is a carrier: its own bytes are the lowest level. -/
instance {σ : Type} [Carrier σ] : Carrier (Tunnel σ) where
  read level max := Tunnel.act fun l => Carrier.read (l + level) max
  receive level n z := Tunnel.act fun l => Carrier.receive (l + level) n z
  drain level := Tunnel.act fun l => Carrier.drain (l + level)
  accept level bs := Tunnel.act fun l => Carrier.accept (l + level) bs
  flush level := Tunnel.act fun l => Carrier.flush (l + level)
  shutdown level := Tunnel.act fun l => Carrier.shutdown (l + level)
  isCancelled t := Carrier.isCancelled t.carrier

end ProxyTunnel
