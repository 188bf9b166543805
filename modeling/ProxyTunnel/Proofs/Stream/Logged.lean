import ProxyTunnel.Client.Tunnel
import ProxyTunnel.Proofs.Stream.Alike
import ProxyTunnel.Proofs.Stream.Moments

/-!
# Carriers with a record of every operation

A `Logged` carrier is any carrier with a list of all that was done on it and of what came of it, so
that one can say of a program that uses several of them what it has read and written at every
moment.

* `LawfulCarrier`: reads deliver, and writes take, no more than they are asked to;
* `Logged.moment`: what was heard, said and not flushed so far;
* `Logged.HasEnded`: no bytes came of a read, although it asked for some.
-/

namespace ProxyTunnel

/-! ## Carriers that keep to what they are asked -/

/-- A read delivers at most the bytes it was asked for, a write takes at most the bytes it was
offered. -/
class LawfulCarrier (σ : Type) [Carrier σ] : Prop where
  length_read {level max : Nat} {s : σ} {bs : Bytes} :
    (Carrier.read level max s).1 = .ok bs → bs.length ≤ max
  accept_le {level : Nat} {bs : Bytes} {s : σ} {n : Nat} :
    (Carrier.accept level bs s).1 = .ok n → n ≤ bs.length

namespace Script

theorem length_fetchSome (written : Nat) (isShut : Bool) (n : Nat) (items : List ReadItem) :
    (fetchSome written isShut n items).bytes.length ≤ n := by
  fun_induction fetchSome written isShut n items with
  | case2 items ih => exact ih
  | case3 bs items hb => exact List.length_take_le n bs
  | case8 k items hk ih => exact ih
  | case10 items hk ih => exact ih
  | _ => exact Nat.zero_le n

theorem room_le (s : Script) (n : Nat) : s.room n ≤ n := by
  have hsome (l : Nat) (o : Option Nat) : (o.map (min l)).getD l ≤ l := by
    cases o with
    | none => exact Nat.le_refl l
    | some k => exact Nat.min_le_left l k
  rw [room]
  cases s.writeLimit with
  | none => exact hsome n s.maxWrite
  | some limit => exact Nat.le_trans (Nat.min_le_left _ _) (hsome n s.maxWrite)

theorem acceptance_le {s : Script} {n k : Nat} (h : s.acceptance n = .ok k) : k ≤ n := by
  unfold acceptance at h
  split at h
  · split at h <;> cases h
    exact s.room_le n
  · cases h
    exact s.room_le n

instance : LawfulCarrier Script where
  length_read {level max s bs} h := by
    cases level with
    | zero =>
      have h' : (s.read max).1 = .ok bs := h
      rw [read] at h'
      have hle := length_fetchSome s.accepted s.isShut max s.items
      split at h' <;> cases h'
      · exact hle
      · exact hle
    | succ level => cases h
  accept_le {level bs s n} h := by
    cases level with
    | zero =>
      rw [accept_eq] at h
      exact acceptance_le h
    | succ level => cases h

end Script

instance {σ : Type} [Carrier σ] [LawfulCarrier σ] : LawfulCarrier (Tunnel σ) where
  length_read h := LawfulCarrier.length_read (σ := σ) h
  accept_le h := LawfulCarrier.accept_le (σ := σ) h

/-! ## Records -/

namespace Event

/-- An operation that fails, or a write that takes nothing. -/
def fails : Event → Bool
  | .read (.error _) | .write _ (.error _) | .flush (.error _) | .shutdown (.error _) => true
  | .write _ (.ok 0) => true
  | _ => false

/-- An operation that the stream is not ready for. -/
def waits : Event → Bool
  | .read .stalled | .write _ .stalled | .flush .stalled | .shutdown .stalled => true
  | _ => false

def isRead : Event → Bool
  | .read _ => true
  | _ => false

attribute [simp] got put

end Event

namespace Moment

variable (t : Moment)

@[simp] theorem step_heard (o : Outcome Fault Bytes) :
    t.step (.read o) = { t with heard := t.heard ++ (Event.read o).got } := by
  simp [step, Event.put]

@[simp] theorem step_said (offered : Bytes) (o : Outcome Fault Nat) :
    t.step (.write offered o) = { t with
      said := t.said ++ (Event.write offered o).put
      unflushed := t.unflushed ++ (Event.write offered o).put } := by
  simp [step, Event.got]

/-- A flush hands on all there is, or changes nothing. -/
@[simp] theorem step_flushed (o : Outcome Fault Unit) :
    t.step (.flush o) = if o = .ok () then { t with unflushed := [] } else t := by
  rcases o with _ | _ | _ <;> simp [step, Event.got, Event.put]

@[simp] theorem step_shutdown (o : Outcome Fault Unit) : t.step (.shutdown o) = t := by
  simp [step, Event.got, Event.put]

end Moment

/-- An operation on record. -/
structure Entry where
  event : Event
  /-- How many bytes a read asked for, if not for all there are. -/
  asked : Option Nat := none
  deriving DecidableEq, Repr

/-- The operation is a read that has found the end: no bytes came, although it asked for some. -/
def Entry.FindsEnd (e : Entry) : Prop := e.event = .read (.ok []) ∧ e.asked ≠ some 0

theorem Entry.findsEnd_read {max : Nat} (h : 0 < max) : FindsEnd ⟨.read (.ok []), some max⟩ :=
  ⟨rfl, fun hmax => Nat.ne_of_gt h (Option.some.inj hmax)⟩

/-- A carrier and all single operations that were done on it, in order. -/
structure Logged (σ : Type) where
  stream : σ
  entries : List Entry := []

namespace Logged

variable {σ : Type}

/-- The operations and what came of them. -/
def events (s : Logged σ) : List Event := s.entries.map Entry.event

/-- What was heard, said and not flushed. -/
def moment (s : Logged σ) : Moment := ({} : Moment).pass s.events

/-- A read has found the end. -/
def HasEnded (s : Logged σ) : Prop := ∃ e ∈ s.entries, e.FindsEnd

/-- The writing direction was ended, or this was tried. -/
def IsShut (s : Logged σ) : Prop := ∃ o, .shutdown o ∈ s.events

/-- The carrier behind one more operation. -/
def push (e : Entry) (stream : σ) (s : Logged σ) : Logged σ := ⟨stream, s.entries ++ [e]⟩

variable (s : Logged σ) (stream : σ) (e : Entry)

@[simp] theorem events_push : (s.push e stream).events = s.events ++ [e.event] := by
  simp [events, push]

@[simp] theorem moment_push : (s.push e stream).moment = s.moment.step e.event := by
  simp [moment, Moment.pass]

@[simp] theorem hasEnded_push : (s.push e stream).HasEnded ↔ s.HasEnded ∨ e.FindsEnd := by
  simp [HasEnded, push, or_and_right, exists_or]

@[simp] theorem isShut_push :
    (s.push e stream).IsShut ↔ s.IsShut ∨ ∃ o, e.event = .shutdown o := by
  simp [IsShut, exists_or, eq_comm]

variable [Carrier σ]

/-- Does one operation and records it. -/
def note {α : Type} (asked : Option Nat) (event : Outcome Fault α → Event)
    (f : σ → Outcome Fault α × σ) (s : Logged σ) : Outcome Fault α × Logged σ :=
  ((f s.stream).1, s.push ⟨event (f s.stream).1, asked⟩ (f s.stream).2)

instance : Carrier (Logged σ) where
  read level max := note (some max) .read (Carrier.read level max)
  receive level n z :=
    note (some n) (fun o => .read (o.map Vector.toList)) (Carrier.receive level n z)
  drain level := note none .read (Carrier.drain level)
  accept level bs := note none (.write bs) (Carrier.accept level bs)
  flush level := note none .flush (Carrier.flush level)
  shutdown level := note none .shutdown (Carrier.shutdown level)
  isCancelled s := Carrier.isCancelled s.stream

theorem read_eq (level max : Nat) : Carrier.read level max s =
    ((Carrier.read level max s.stream).1,
      s.push ⟨.read (Carrier.read level max s.stream).1, some max⟩
        (Carrier.read level max s.stream).2) := rfl

theorem accept_eq (level : Nat) (bs : Bytes) : Carrier.accept level bs s =
    ((Carrier.accept level bs s.stream).1,
      s.push ⟨.write bs (Carrier.accept level bs s.stream).1, none⟩
        (Carrier.accept level bs s.stream).2) := rfl

theorem flush_eq (level : Nat) : Carrier.flush level s =
    ((Carrier.flush level s.stream).1,
      s.push ⟨.flush (Carrier.flush level s.stream).1, none⟩
        (Carrier.flush level s.stream).2) := rfl

theorem shutdown_eq (level : Nat) : Carrier.shutdown level s =
    ((Carrier.shutdown level s.stream).1,
      s.push ⟨.shutdown (Carrier.shutdown level s.stream).1, none⟩
        (Carrier.shutdown level s.stream).2) := rfl

end Logged

end ProxyTunnel
