import ProxyTunnel.Stream.Fault
import ProxyTunnel.Text.Utf8
import ProxyTunnel.Net.Word

/-!
# Conversations

What one side of a protocol does on a byte stream, step by step: it writes messages, flushes them,
waits for blocks of known size, and ends with a result or an error. A conversation says nothing of
the stream; it can be run on any (`Conversation.run`).
-/

namespace ProxyTunnel

/-- The outcome of an operation that may fail with errors of type `ε`, or wait forever. -/
inductive Outcome (ε α : Type) where
  | ok (a : α)
  | error (e : ε)
  | stalled
  deriving DecidableEq, Repr

namespace Outcome

/-- The outcome with its result replaced. -/
def map {ε α β : Type} (f : α → β) : Outcome ε α → Outcome ε β
  | .ok a => .ok (f a)
  | .error e => .error e
  | .stalled => .stalled

/-- The outcome with its error replaced. -/
def mapError {ε ε' α : Type} (f : ε → ε') : Outcome ε α → Outcome ε' α
  | .ok a => .ok a
  | .error e => .error (f e)
  | .stalled => .stalled

end Outcome

/-- What one side does on a byte stream. -/
inductive Conversation (ε α : Type) where
  | done (a : α)
  | fail (e : ε)
  /-- Writes all bytes of a message. -/
  | write (message : Bytes) (onFault : Fault → ε) (next : Conversation ε α)
  | flush (onFault : Fault → ε) (next : Conversation ε α)
  /-- Reads exactly `n` bytes. If the stream ends before, the fault is `atEnd`. -/
  | receive (n : Nat) (atEnd : Fault) (onFault : Fault → ε)
      (next : Vector UInt8 n → Conversation ε α)

namespace Conversation

variable {ε ε' α β : Type}

/-- One conversation behind another. -/
def bind : Conversation ε α → (α → Conversation ε β) → Conversation ε β
  | .done a, k => k a
  | .fail e, _ => .fail e
  | .write m f next, k => .write m f (bind next k)
  | .flush f next, k => .flush f (bind next k)
  | .receive n z f next, k => .receive n z f fun v => bind (next v) k

instance : Monad (Conversation ε) where
  pure := .done
  bind := bind

/-- The conversation with its errors replaced. -/
def mapError (f : ε → ε') : Conversation ε α → Conversation ε' α
  | .done a => .done a
  | .fail e => .fail (f e)
  | .write m g next => .write m (f ∘ g) (mapError f next)
  | .flush g next => .flush (f ∘ g) (mapError f next)
  | .receive n z g next => .receive n z (f ∘ g) fun v => mapError f (next v)

/-- The conversation that ends at once. -/
def ofExcept : Except ε α → Conversation ε α
  | .ok a => .done a
  | .error e => .fail e

/-- Reads a block of `n` bytes. -/
def block (n : Nat) (onFault : Fault → ε) : Conversation ε (Vector UInt8 n) :=
  .receive n .earlyEnd onFault .done

/-- Reads one byte. -/
def byte (onFault : Fault → ε) : Conversation ε UInt8 :=
  .receive 1 .unexpectedEnd onFault fun v => .done v[0]

/-- Reads a number of two bytes, the high one first. -/
def word (onFault : Fault → ε) : Conversation ε UInt16 :=
  .receive 2 .unexpectedEnd onFault fun v =>
    let (hi, lo) := Net.Word.pair v
    .done (Net.Word.ofBytes hi lo)

end Conversation

end ProxyTunnel
