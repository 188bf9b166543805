import Mathlib.Data.List.Infix
import ProxyTunnel.Proofs.Handshake.Orderly
import ProxyTunnel.Proofs.Stream.Faults

/-!
# One fault in a handshake

A handshake that came to its end on a stream without faults is run again on the same stream with
one fault put into it: the stream breaks after some bytes, takes only so many bytes, or fails one
flush. Up to the fault the two runs are the same, and there the second one ends.

* `Passes`: the run on the stream without faults, step by step;
* `Passes.run_reading`, `Passes.run_limited`, `Passes.run_jammed`: the second run, by kind of fault;
* `IsHandshake.run_of_fault`: all three for every handshake.
-/

namespace ProxyTunnel

/-- What a handshake reports when the stream breaks. -/
def Break.error : Break → HandshakeError
  | .ended => .streamTruncated
  | .fault f => if f.isEnd then .streamTruncated else .read f

theorem Break.ofRead_cause (x : Break) {z : Fault} (hz : z.isEnd = true) :
    HandshakeError.ofRead (x.cause z) = x.error := by
  cases x with
  | ended => exact if_pos hz
  | fault f => rfl

namespace Conversation

open Script

variable {α : Type}

/-- A run in which every message is sent and every wait gets its block. -/
inductive Passes : Conversation HandshakeError α → Script → Except HandshakeError α → Script →
    Prop where
  | done (a : α) (s : Script) : Passes (.done a) s (.ok a) s
  | fail (e : HandshakeError) (s : Script) : Passes (.fail e) s (.error e) s
  | send {m : Bytes} {next : Conversation HandshakeError α} {s s' : Script}
    {r : Except HandshakeError α} (hm : m ≠ []) (hs : s.Willing) :
    Passes next (s.take m).flushed r s' → Passes (.write m .write (.flush .flush next)) s r s'
  | receive {n : Nat} {z : Fault} {next : Vector UInt8 n → Conversation HandshakeError α}
    {s s' : Script} {r : Except HandshakeError α} (hz : z.isEnd = true) {v : Vector UInt8 n}
    (hstop : (s.fetched n).stop = .complete) (hbytes : (s.fetched n).bytes = v.toList) :
    Passes (next v) (s.advance (s.fetched n)) r s' → Passes (.receive n z .ofRead next) s r s'

variable {c : Conversation HandshakeError α} {s s' : Script} {r : Except HandshakeError α}

/-- A run on a stream without faults passes, unless the stream ends too early. -/
theorem passes_of_run (hc : c.Orderly) (hs : s.FaultFree)
    (hrun : c.run 0 s = (.ofExcept r, s')) (hr : r ≠ .error .streamTruncated) :
    Passes c s r s' := by
  induction hc generalizing s with
  | done a =>
    cases r <;> cases hrun
    exact .done a _
  | @fail e he =>
    cases r <;> cases hrun
    exact .fail e _
  | @send m next hm h ih =>
    rw [Conversation.run, hs.willing.write_eq] at hrun
    dsimp only at hrun
    rw [Conversation.run, (hs.willing.take m).flush_eq] at hrun
    exact .send hm hs.willing (ih (hs.take m).flushed hrun)
  | @receive n z next hz h ih =>
    rw [Conversation.run] at hrun
    rcases hs.receive_cases n z with ⟨v, hstop, hbytes⟩ | hend | hstall
    · rw [receive_of_complete hstop hbytes] at hrun
      exact .receive hz hstop hbytes (ih v (hs.fetched n) hrun)
    · rw [← Prod.eta (Carrier.receive 0 n z s), hend] at hrun
      have htruncated : HandshakeError.ofRead z = .streamTruncated := if_pos hz
      cases r with
      | ok a => cases hrun
      | error e =>
        cases hrun
        exact absurd (congrArg Except.error htruncated) hr
    · rw [← Prod.eta (Carrier.receive 0 n z s), hstall] at hrun
      cases r <;> cases hrun

/-- The second stream has come further than the first. -/
structure Grows (s s' : Script) : Prop where
  consumed : s.consumed ≤ s'.consumed
  accepted : s.accepted ≤ s'.accepted
  flushes : s.flushes ≤ s'.flushes
  sent : s.sent <+: s'.sent
  said : s.said <+: s'.said

theorem Grows.refl (s : Script) : Grows s s :=
  ⟨Nat.le_refl _, Nat.le_refl _, Nat.le_refl _, List.prefix_refl _, List.prefix_refl _⟩

theorem Grows.trans {s₁ s₂ s₃ : Script} (h : Grows s₁ s₂) (h' : Grows s₂ s₃) : Grows s₁ s₃ :=
  ⟨Nat.le_trans h.consumed h'.consumed, Nat.le_trans h.accepted h'.accepted,
    Nat.le_trans h.flushes h'.flushes, h.sent.trans h'.sent, h.said.trans h'.said⟩

theorem grows_send (s : Script) (m : Bytes) : Grows s (s.take m).flushed := by
  constructor
  · simp
  · show s.accepted ≤ (s.take m).accepted
    simp
  · simp
  · simp
  · rw [said_flushed, said_take]
    exact List.prefix_append _ _

theorem grows_advance (s : Script) (f : Fetched) : Grows s (s.advance f) :=
  ⟨Nat.le_add_right _ _, Nat.le_refl _, Nat.le_refl _, List.prefix_refl _, List.prefix_refl _⟩

theorem Passes.grows (h : Passes c s r s') : Grows s s' := by
  induction h with
  | done a s => exact .refl s
  | fail e s => exact .refl s
  | @send m next s s' r hm hs h ih => exact (grows_send s m).trans ih
  | receive hz hstop hbytes h ih => exact (grows_advance _ _).trans ih

/-! ## A stream that breaks -/

theorem Passes.run_reading {x : Break} {k : Nat} {items : List ReadItem} (h : Passes c s r s')
    (hx : x ≠ .fault .interrupted) (hb : Breaks x k s.items items) :
    (s'.consumed ≤ s.consumed + k →
      ∃ left, c.run 0 (s.reading items) = (.ofExcept r, s'.reading left)) ∧
    (s.consumed + k < s'.consumed →
      ∃ t, c.run 0 (s.reading items) = (.error x.error, t) ∧ t.consumed = s.consumed + k ∧
        t.said <+: s'.said) := by
  induction h generalizing k items with
  | done a s => exact ⟨fun _ => ⟨items, rfl⟩, by omega⟩
  | fail e s => exact ⟨fun _ => ⟨items, rfl⟩, by omega⟩
  | @send m next s s' r hm hs h ih =>
    have hw : (s.reading items).Willing := ⟨hs.takes, hs.unlimited, hs.flushes⟩
    have hrun : (Conversation.write m .write (.flush .flush next)).run 0 (s.reading items) =
        next.run 0 ((s.take m).flushed.reading items) := by
      rw [Conversation.run, hw.write_eq]
      dsimp only
      rw [Conversation.run, (hw.take m).flush_eq, take_reading]
      rfl
    have hb' : Breaks x k (s.take m).flushed.items items := by rwa [items_flushed, items_take]
    have := ih hb'
    rwa [← hrun, consumed_flushed, consumed_take] at this
  | @receive n z next s s' r hz v hstop hbytes h ih =>
    have hlen : (s.fetched n).bytes.length = n := by rw [hbytes, Vector.length_toList]
    rw [Conversation.run]
    rcases Nat.lt_or_ge k n with hk | hk
    · obtain ⟨t, ht, hconsumed, hsent, hpending⟩ := hb.receive_of_lt hx hstop hk z
      have hgrows : s.consumed + n ≤ s'.consumed := by
        have := h.grows.consumed
        rwa [consumed_advance, hlen] at this
      have hsaid : t.said = s.said := by rw [said, said, hsent, hpending]
      refine ⟨by omega, fun _ => ⟨t, ?_, hconsumed, ?_⟩⟩
      · rw [ht, ← Break.ofRead_cause x hz]
      · rw [hsaid]
        exact ((grows_advance s _).trans h.grows).said
    · obtain ⟨left, hleft, ht⟩ := hb.receive_of_le hx hstop hbytes hk z
      have hconsumed : (s.advance (s.fetched n)).consumed + (k - n) = s.consumed + k := by
        rw [consumed_advance, hlen]
        omega
      have := ih hleft
      rw [hconsumed] at this
      rw [ht]
      exact this

/-! ## A stream that stops to take bytes -/

theorem Passes.run_limited {limit : Nat} (fault : Option Fault) (h : Passes c s r s')
    (hlimit : s.accepted ≤ limit) :
    (s'.accepted ≤ limit →
      c.run 0 (s.limited limit fault) = (.ofExcept r, s'.limited limit fault)) ∧
    (limit < s'.accepted →
      ∃ t, c.run 0 (s.limited limit fault) = (.error (.write (fault.getD .writeZero)), t) ∧
        t.accepted = limit ∧ t.said <+: s'.said) := by
  induction h with
  | done a s => exact ⟨fun _ => rfl, by omega⟩
  | fail e s => exact ⟨fun _ => rfl, by omega⟩
  | @send m next s s' r hm hs h ih =>
    rw [Conversation.run, write_limited fault hs hlimit]
    have haccepted : (s.take m).flushed.accepted = s.accepted + m.length := accepted_take s m
    have hgrows := h.grows.accepted
    by_cases hfit : s.accepted + m.length ≤ limit
    · have hflush : Carrier.flush 0 ((s.take m).limited limit fault) =
          (.ok (), (s.take m).flushed.limited limit fault) :=
        flush_of_none (s := (s.take m).limited limit fault) (hs.take m).flushes
      rw [if_pos hfit]
      dsimp only
      rw [Conversation.run, hflush]
      exact ih (by omega)
    · refine ⟨by omega, fun _ => ⟨_, by rw [if_neg hfit], ?_, ?_⟩⟩
      · show (s.take (m.take (limit - s.accepted))).accepted = limit
        rw [accepted_take, List.length_take_of_le (by omega)]
        omega
      · have hsaid : (s.take m).flushed.said <+: s'.said := h.grows.said
        rw [said_flushed, said_take] at hsaid
        show (s.take (m.take (limit - s.accepted))).said <+: s'.said
        rw [said_take]
        exact ((List.prefix_append_right_inj _).mpr (List.take_prefix _ _)).trans hsaid
  | @receive n z next s s' r hz v hstop hbytes h ih =>
    rw [Conversation.run, receive_of_complete (s := s.limited limit fault) hstop hbytes]
    exact ih hlimit

/-! ## A flush that fails -/

theorem Passes.run_jammed {nth : Nat} (f : Fault) (h : Passes c s r s') (hp : s.pending = none)
    (hnth : s.flushes < nth) :
    (s'.flushes < nth → c.run 0 (s.jammed nth f) = (.ofExcept r, s'.jammed nth f)) ∧
    (nth ≤ s'.flushes →
      ∃ t last, c.run 0 (s.jammed nth f) = (.error (.flush f), t) ∧ t.pending = some last ∧
        t.sent ++ [last] = s'.sent.take (s.sent.length + (nth - s.flushes)) ∧
        t.sent.length + 1 = s.sent.length + (nth - s.flushes)) := by
  induction h with
  | done a s => exact ⟨fun _ => rfl, by omega⟩
  | fail e s => exact ⟨fun _ => rfl, by omega⟩
  | @send m next s s' r hm hs h ih =>
    have hwrite : Carrier.write 0 m (s.jammed nth f) = (.ok (), (s.take m).jammed nth f) := by
      rw [write_of_unlimited (s := s.jammed nth f) hs.takes hs.unlimited, take_jammed]
    have hsent : (s.take m).flushed.sent = s.sent ++ [⟨s.consumed, m⟩] := by
      simp [take, hm, hp]
    have hpending : (s.take m).pending = some ⟨s.consumed, m⟩ := by simp [take, hm, hp]
    have hgrows := h.grows
    rw [Conversation.run, hwrite]
    dsimp only
    rw [Conversation.run, flush_jammed, flushes_take]
    by_cases hfail : nth = s.flushes + 1
    · have hflushes := hgrows.flushes
      rw [flushes_flushed, flushes_take] at hflushes
      rw [if_pos hfail]
      refine ⟨by omega, fun _ => ⟨_, _, rfl, hpending, ?_, ?_⟩⟩
      · obtain ⟨later, hlater⟩ := hgrows.sent
        have hone : nth - s.flushes = 1 := by omega
        show (s.take m).sent ++ _ = _
        rw [sent_take, ← hlater, hsent, hone, List.take_left' (by simp)]
      · show (s.take m).sent.length + 1 = _
        rw [sent_take]
        omega
    · have hlen : (s.take m).flushed.sent.length + (nth - (s.take m).flushed.flushes) =
          s.sent.length + (nth - s.flushes) := by
        rw [hsent, flushes_flushed, flushes_take]
        simp only [List.length_append, List.length_singleton]
        omega
      have := ih rfl (by rw [flushes_flushed, flushes_take]; omega)
      rw [if_neg hfail]
      rwa [hlen] at this
  | @receive n z next s s' r hz v hstop hbytes h ih =>
    rw [Conversation.run, receive_of_complete (s := s.jammed nth f) hstop hbytes]
    exact ih hp hnth

end Conversation

open Conversation Script

/-- A handshake that came to its end on a stream without faults, on the same stream with one fault:
outside of the run the fault changes nothing, inside it ends the handshake right there, and what the
stream takes is a beginning of what it took before. The stream can break at any of its bytes. -/
theorem IsHandshake.run_of_fault {α : Type} {c : Conversation HandshakeError α}
    (hc : IsHandshake c) {s s' : Script} (hs : s.FaultFree) (hp : s.pending = none)
    {r : Except HandshakeError α} (hrun : c.run 0 s = (.ofExcept r, s'))
    (hr : r ≠ .error .streamTruncated) :
    (∀ x n, n ≤ s.unread.length → ∃ items, Breaks x n s.items items) ∧
    (∀ x n items, x ≠ .fault .interrupted → Breaks x n s.items items →
      (s'.consumed ≤ s.consumed + n →
        ∃ left, c.run 0 (s.reading items) = (.ofExcept r, s'.reading left)) ∧
      (s.consumed + n < s'.consumed →
        ∃ t, c.run 0 (s.reading items) = (.error x.error, t) ∧ t.consumed = s.consumed + n ∧
          t.said <+: s'.said)) ∧
    (∀ n fault,
      (s'.accepted ≤ s.accepted + n → c.run 0 (s.limited (s.accepted + n) fault) =
        (.ofExcept r, s'.limited (s.accepted + n) fault)) ∧
      (s.accepted + n < s'.accepted →
        ∃ t, c.run 0 (s.limited (s.accepted + n) fault) =
            (.error (.write (fault.getD .writeZero)), t) ∧
          t.accepted = s.accepted + n ∧ t.said <+: s'.said)) ∧
    (∀ j f, 0 < j →
      (s'.flushes < s.flushes + j → c.run 0 (s.jammed (s.flushes + j) f) =
        (.ofExcept r, s'.jammed (s.flushes + j) f)) ∧
      (s.flushes + j ≤ s'.flushes →
        ∃ t last, c.run 0 (s.jammed (s.flushes + j) f) = (.error (.flush f), t) ∧
          t.pending = some last ∧ t.sent ++ [last] = s'.sent.take (s.sent.length + j) ∧
          t.sent.length + 1 = s.sent.length + j ∧ t.said <+: s'.said)) := by
  have hpasses := passes_of_run hc.orderly hs hrun hr
  refine ⟨fun x n hn => exists_breaks x s.items hn,
    fun x n items hx hb => hpasses.run_reading hx hb,
    fun n fault => hpasses.run_limited fault (Nat.le_add_right _ _), fun j f hj => ?_⟩
  have hnth : s.flushes < s.flushes + j := by omega
  obtain ⟨hafter, hwithin⟩ := hpasses.run_jammed f hp hnth
  refine ⟨hafter, fun hj' => ?_⟩
  obtain ⟨t, last, ht, hpending, hsent, hlen⟩ := hwithin hj'
  rw [Nat.add_sub_cancel_left] at hsent hlen
  refine ⟨t, last, ht, hpending, hsent, hlen, ?_⟩
  rw [said, hpending, Option.toList_some, hsent]
  have hprefix : s'.sent.take (s.sent.length + j) <+: s'.sent ++ s'.pending.toList :=
    (List.take_prefix _ _).trans (List.prefix_append _ _)
  exact hprefix.flatMap _

/-- A server that grants a SOCKS4 request of nine bytes with a reply of eight: the stream ends
behind the third, or takes four, or fails the only flush. -/
theorem run_of_fault_granted :
    let c := handshakeSocks4 (.socket (.v4 ⟨10, 0, 0, 1⟩ 80)) []
    let s : Script := { items := [.data [0, 0x5A, 0, 0, 0, 0, 0, 0]] }
    (∃ t, c.run 0 (s.reading [.data [0, 0x5A, 0], .ended]) = (.error .streamTruncated, t) ∧
        t.consumed = 3) ∧
      (∃ t, c.run 0 (s.limited 4 none) = (.error (.write .writeZero), t) ∧ t.accepted = 4) ∧
      ∃ t, c.run 0 (s.jammed 1 .brokenPipe) = (.error (.flush .brokenPipe), t) ∧
        t.sent.length = 0 := by
  intro c s
  have hs : s.FaultFree := ⟨⟨nofun, rfl, rfl⟩, by simp [s]⟩
  have hrun : c.run 0 s = (.ofExcept (.ok ()), (c.run 0 s).2) := rfl
  obtain ⟨-, hread, hwrite, hflush⟩ :=
    (IsHandshake.socks4 _ _).run_of_fault hs rfl hrun (by simp)
  have hbreaks : Breaks .ended 3 s.items [.data [0, 0x5A, 0], .ended] :=
    .within [0, 0x5A, 0] [0, 0, 0, 0, 0] [] []
  obtain ⟨t₁, ht₁, hconsumed, -⟩ := (hread .ended 3 _ nofun hbreaks).2 (by decide)
  obtain ⟨t₂, ht₂, haccepted, -⟩ := (hwrite 4 none).2 (by decide)
  obtain ⟨t₃, last, ht₃, -, -, hlen, -⟩ := (hflush 1 .brokenPipe (by decide)).2 (by decide)
  exact ⟨⟨t₁, ht₁, hconsumed⟩, ⟨t₂, ht₂, haccepted⟩, t₃, ht₃, Nat.succ.inj hlen⟩

end ProxyTunnel
