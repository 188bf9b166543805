import Mathlib.Data.List.Forall2
import ProxyTunnel.Proofs.Stream.Operations
import ProxyTunnel.Proofs.Stream.Runs

/-!
# Streams that differ in a message

Two runs of which one sends a message where the other sends another one of the same length. How much
of it a stream takes depends on its length alone, and what was sent before makes no difference to
what comes, so both runs end alike:

* `acceptAll_prefix`: both messages are taken equally far;
* `run_after`: a run on a stream on which more was sent before;
* `run_send_alike`: the runs end with the same outcome, on streams that are `Alike`.
-/

namespace ProxyTunnel

/-- Two messages that are the same, or are what was `held` for the next flush and equally much of
`m` in one of them, of `m'` in the other. -/
structure Message.Twins (held m m' : Bytes) (x y : Message) : Prop where
  readBefore : x.readBefore = y.readBefore
  length : x.bytes.length = y.bytes.length
  bytes : x.bytes = y.bytes ∨ ∃ n, x.bytes = held ++ m.take n ∧ y.bytes = held ++ m'.take n

theorem Message.Twins.refl {held m m' : Bytes} (x : Message) : x.Twins held m m' x :=
  ⟨rfl, rfl, .inl rfl⟩

namespace Script

/-- What was written and not flushed. -/
def held (s : Script) : Bytes := (s.pending.map Message.bytes).getD []

/-- The streams are the same, but for twins among the messages. -/
structure Alike (held m m' : Bytes) (s s' : Script) : Prop where
  others : s' = { s with sent := s'.sent, pending := s'.pending }
  sent : List.Forall₂ (Message.Twins held m m') s.sent s'.sent
  pending : Option.Rel (Message.Twins held m m') s.pending s'.pending

/-! ## Writes -/

/-- How a write of so many bytes ends. -/
def acceptance (s : Script) (n : Nat) : Outcome Fault Nat :=
  match s.writeLimit with
  | some (limit, some f) => if n ≠ 0 ∧ limit ≤ s.accepted then .error f else .ok (s.room n)
  | _ => .ok (s.room n)

/-- How many bytes are taken when a write ends so. -/
def takenBy : Outcome Fault Nat → Nat
  | .ok n => n
  | _ => 0

theorem accept_eq (s : Script) (m : Bytes) :
    Carrier.accept 0 m s =
      (s.acceptance m.length, s.take (m.take (takenBy (s.acceptance m.length)))) := by
  show s.accept m = _
  simp only [accept, acceptance, ne_eq, List.length_eq_zero_iff]
  rcases s.writeLimit with _ | ⟨limit, _ | f⟩
  · rfl
  · rfl
  · dsimp only
    split <;> rfl

/-- What limits the writes on two streams is the same. -/
structure AsRoomy (s s' : Script) : Prop where
  maxWrite : s.maxWrite = s'.maxWrite
  writeLimit : s.writeLimit = s'.writeLimit
  accepted : s.accepted = s'.accepted

theorem AsRoomy.acceptance {s s' : Script} (h : s.AsRoomy s') (n : Nat) :
    s.acceptance n = s'.acceptance n := by
  simp only [Script.acceptance, room, h.maxWrite, h.writeLimit, h.accepted]

theorem AsRoomy.take {s s' : Script} (h : s.AsRoomy s') {m m' : Bytes} (hm : m.length = m'.length) :
    (s.take m).AsRoomy (s'.take m') := by
  constructor
  · rw [maxWrite_take, maxWrite_take, h.maxWrite]
  · rw [writeLimit_take, writeLimit_take, h.writeLimit]
  · rw [accepted_take, accepted_take, h.accepted, hm]

/-- Messages of the same length are taken equally far. -/
theorem acceptAll_prefix {s s' : Script} (h : s.AsRoomy s') (fuel : Nat) {m m' : Bytes}
    (hm : m.length = m'.length) :
    ∃ o n, Carrier.acceptAll 0 fuel m s = (o, s.take (m.take n)) ∧
      Carrier.acceptAll 0 fuel m' s' = (o, s'.take (m'.take n)) := by
  induction fuel generalizing s s' m m' with
  | zero => exact ⟨.ok (), 0, rfl, rfl⟩
  | succ fuel ih =>
    by_cases hnil : m = []
    · obtain rfl : m' = [] := List.eq_nil_of_length_eq_zero (by rw [← hm, hnil]; rfl)
      rw [hnil]
      exact ⟨.ok (), 0, rfl, rfl⟩
    have hnil' : m' ≠ [] := by
      rintro rfl
      exact hnil (List.eq_nil_of_length_eq_zero hm)
    rw [Carrier.acceptAll, Carrier.acceptAll, if_neg hnil, if_neg hnil', accept_eq, accept_eq,
      ← hm, ← h.acceptance]
    rcases s.acceptance m.length with (_ | n) | f | _
    · exact ⟨_, 0, rfl, rfl⟩
    · have htake : (m.take (n + 1)).length = (m'.take (n + 1)).length := by simp [hm]
      have hdrop : (m.drop (n + 1)).length = (m'.drop (n + 1)).length := by simp [hm]
      obtain ⟨o, k, hs, hs'⟩ := ih (h.take htake) hdrop
      refine ⟨o, n + 1 + k, ?_, ?_⟩
      · rw [List.take_add, ← take_take]
        exact hs
      · rw [List.take_add, ← take_take]
        exact hs'
    · exact ⟨_, 0, rfl, rfl⟩
    · exact ⟨_, 0, rfl, rfl⟩

/-! ## What was sent before -/

/-- The stream with messages sent before all others. -/
def after (sent : List Message) (s : Script) : Script := { s with sent := sent ++ s.sent }

section

variable (sent : List Message) (s : Script)

theorem take_after (m : Bytes) : (s.after sent).take m = (s.take m).after sent := by
  unfold take
  split <;> rfl

theorem acceptAll_after (fuel : Nat) (m : Bytes) :
    Carrier.acceptAll 0 fuel m (s.after sent) =
      ((Carrier.acceptAll 0 fuel m s).1, (Carrier.acceptAll 0 fuel m s).2.after sent) := by
  have h : (s.after sent).AsRoomy s := ⟨rfl, rfl, rfl⟩
  obtain ⟨o, n, hs, hs'⟩ := acceptAll_prefix h fuel (m := m) rfl
  rw [hs, hs', take_after]

theorem flush_after :
    Carrier.flush 0 (s.after sent) = ((Carrier.flush 0 s).1, (Carrier.flush 0 s).2.after sent) := by
  show (s.after sent).flush = ((s.flush).1, (s.flush).2.after sent)
  simp only [flush, after]
  cases s.flushFault with
  | none => simp
  | some limit =>
    dsimp only
    split <;> simp_all

theorem receive_after (n : Nat) (atEnd : Fault) :
    Carrier.receive 0 n atEnd (s.after sent) =
      ((Carrier.receive 0 n atEnd s).1, (Carrier.receive 0 n atEnd s).2.after sent) := by
  show (s.after sent).receive n atEnd = ((s.receive n atEnd).1, (s.receive n atEnd).2.after sent)
  unfold receive
  dsimp only [after]
  split
  · rfl
  · split <;> rfl

/-- What was sent before makes no difference to a run. -/
theorem run_after {ε α : Type} (c : Conversation ε α) :
    c.run 0 (s.after sent) = ((c.run 0 s).1, (c.run 0 s).2.after sent) := by
  induction c generalizing s with
  | done a => rfl
  | fail e => rfl
  | write m f next ih =>
    rw [Conversation.run, Conversation.run, Carrier.write, acceptAll_after, Carrier.write]
    rcases Carrier.acceptAll 0 m.length m s with ⟨_ | _ | _, s'⟩
    · exact ih s'
    · rfl
    · rfl
  | flush f next ih =>
    rw [Conversation.run, Conversation.run, flush_after]
    rcases Carrier.flush 0 s with ⟨_ | _ | _, s'⟩
    · exact ih s'
    · rfl
    · rfl
  | receive n z f next ih =>
    rw [Conversation.run, Conversation.run, receive_after]
    rcases Carrier.receive 0 n z s with ⟨v | _ | _, s'⟩
    · exact ih v s'
    · rfl
    · rfl

end

/-! ## Streams alike -/

section

variable {held m m' : Bytes} {s s' : Script}

theorem twins_pending (p : Option Message) : Option.Rel (Message.Twins held m m') p p := by
  cases p with
  | none => exact .none
  | some x => exact .some (.refl x)

theorem twins_sent (sent : List Message) : List.Forall₂ (Message.Twins held m m') sent sent :=
  List.forall₂_same.mpr fun x _ => .refl x

theorem Alike.refl (s : Script) : Alike held m m' s s := ⟨rfl, twins_sent _, twins_pending _⟩

/-- Streams alike that hold the same bytes are one stream with different messages sent before. -/
theorem Alike.eq_after (h : Alike held m m' s s') (hp : s.pending = s'.pending) :
    s = after s.sent { s with sent := [] } ∧ s' = after s'.sent { s with sent := [] } := by
  constructor
  · simp [after]
  · conv_lhs => rw [h.others]
    simp [after, hp]

/-- Runs on streams alike that hold the same bytes end alike. -/
theorem Alike.run {ε α : Type} (h : Alike held m m' s s') (hp : s.pending = s'.pending)
    (c : Conversation ε α) :
    (c.run 0 s).1 = (c.run 0 s').1 ∧ Alike held m m' (c.run 0 s).2 (c.run 0 s').2 := by
  obtain ⟨hs, hs'⟩ := h.eq_after hp
  rw [hs, hs', run_after, run_after]
  exact ⟨rfl, rfl, List.rel_append h.sent (twins_sent _), twins_pending _⟩

/-- Taking equally much of two messages of the same length. -/
theorem alike_take (s : Script) (n : Nat) (hm : m.length = m'.length) :
    Alike s.held m m' (s.take (m.take n)) (s.take (m'.take n)) := by
  have hlength : (m.take n).length = (m'.take n).length := by simp [hm]
  by_cases hnil : m.take n = []
  · have hnil' : m'.take n = [] := List.eq_nil_of_length_eq_zero (by rw [← hlength, hnil]; rfl)
    rw [hnil, hnil', take_nil]
    exact .refl s
  · have hnil' : m'.take n ≠ [] := fun h =>
      hnil (List.eq_nil_of_length_eq_zero (by rw [hlength, h]; rfl))
    rw [take, take, if_neg hnil, if_neg hnil']
    refine ⟨by simp [hlength], twins_sent _, .some ?_⟩
    cases hp : s.pending with
    | none => exact ⟨rfl, hlength, .inr ⟨n, by simp [held, hp]⟩⟩
    | some x =>
      exact ⟨rfl, by simp only [List.length_append, hlength], .inr ⟨n, by simp [held, hp]⟩⟩

theorem Alike.flush (h : Alike held m m' s s') :
    (Carrier.flush 0 s).1 = (Carrier.flush 0 s').1 ∧
      Alike held m m' (Carrier.flush 0 s).2 (Carrier.flush 0 s').2 ∧
      ((Carrier.flush 0 s).1 = .ok () →
        (Carrier.flush 0 s).2.pending = (Carrier.flush 0 s').2.pending) := by
  have hpending : List.Forall₂ (Message.Twins held m m') s.pending.toList s'.pending.toList := by
    have hrel := h.pending
    generalize s.pending = p, s'.pending = p' at hrel
    cases hrel with
    | some hx => exact .cons hx .nil
    | none => exact .nil
  rw [h.others]
  show (s.flush).1 = (Script.flush _).1 ∧ Alike held m m' (s.flush).2 (Script.flush _).2 ∧
    ((s.flush).1 = .ok () → (s.flush).2.pending = (Script.flush _).2.pending)
  simp only [Script.flush]
  rcases s.flushFault with _ | ⟨n, f⟩
  · exact ⟨rfl, ⟨rfl, List.rel_append h.sent hpending, .none⟩, fun _ => rfl⟩
  · dsimp only
    split
    · exact ⟨rfl, ⟨rfl, h.sent, h.pending⟩, by rintro ⟨⟩⟩
    · exact ⟨rfl, ⟨rfl, List.rel_append h.sent hpending, .none⟩, fun _ => rfl⟩

/-- Two runs that send one message or the other, both of the same length, end alike. -/
theorem run_send_alike {α : Type} (hm : m.length = m'.length)
    (k : Unit → Conversation HandshakeError α) (s : Script) :
    ((Conversation.send m >>= k).run 0 s).1 = ((Conversation.send m' >>= k).run 0 s).1 ∧
      Alike s.held m m' ((Conversation.send m >>= k).run 0 s).2
        ((Conversation.send m' >>= k).run 0 s).2 := by
  have hsend (m : Bytes) : Conversation.send m >>= k = .write m .write (.flush .flush (k ())) := rfl
  obtain ⟨o, n, hs, hs'⟩ := acceptAll_prefix (s := s) ⟨rfl, rfl, rfl⟩ m.length hm
  rw [hsend, hsend, Conversation.run, Conversation.run, Carrier.write, Carrier.write, ← hm, hs, hs']
  have htaken := alike_take s n hm
  cases o with
  | ok a =>
    obtain ⟨ho, hflushed, hpending⟩ := htaken.flush
    dsimp only
    rw [Conversation.run, Conversation.run]
    rcases hf : Carrier.flush 0 (s.take (m.take n)) with ⟨o₁, t⟩
    rcases hf' : Carrier.flush 0 (s.take (m'.take n)) with ⟨o₂, t'⟩
    rw [hf, hf'] at ho hflushed hpending
    dsimp only at ho hflushed hpending
    subst ho
    cases o₁ with
    | ok a => exact hflushed.run (hpending rfl) (k ())
    | error f => exact ⟨rfl, hflushed⟩
    | stalled => exact ⟨rfl, hflushed⟩
  | error f => exact ⟨rfl, htaken⟩
  | stalled => exact ⟨rfl, htaken⟩

end

end Script

end ProxyTunnel
