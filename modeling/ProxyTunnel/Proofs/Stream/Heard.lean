import ProxyTunnel.Proofs.Stream.Order
import ProxyTunnel.Proofs.Stream.Serving

/-!
# Runs and what they have heard

What the bytes of a message are understood as (`Conversation.Hears`) decides how runs end, on
streams of all kinds:

* `hears_of_run`: whatever may fail, end or stand still on a stream, a run that comes to a result
  has heard bytes that lead to it, and these are the bytes it took from the stream;
* `Hears.run_answers`: on every stream that serves such bytes in time, whatever comes behind them, a
  run comes to their result and leaves the rest.
-/

namespace ProxyTunnel

namespace Script

variable {s s' : Script}

theorem accept_ok {m : Bytes} {n : Nat} (h : Carrier.accept 0 m s = (.ok n, s')) :
    s' = s.take (m.take n) := by
  have h' : s.accept m = (.ok n, s') := h
  unfold accept at h'
  split at h'
  · split at h'
    · cases h'
    · cases h'
      rfl
  · cases h'
    rfl

/-- A message is written only if all of it is taken. -/
theorem acceptAll_ok {fuel : Nat} {m : Bytes} (hm : m.length ≤ fuel)
    (h : Carrier.acceptAll 0 fuel m s = (.ok (), s')) : s' = s.take m := by
  induction fuel generalizing s m with
  | zero =>
    obtain rfl : m = [] := List.eq_nil_of_length_eq_zero (by omega)
    cases h
    rfl
  | succ fuel ih =>
    rw [Carrier.acceptAll] at h
    split at h
    · rename_i hnil
      cases h
      rw [hnil, take_nil]
    · rcases haccept : Carrier.accept 0 m s with ⟨(_ | n) | e | _, t⟩ <;> rw [haccept] at h
      · cases h
      · have hlen : (m.drop (n + 1)).length ≤ fuel := by
          rw [List.length_drop]
          omega
        rw [ih hlen h, accept_ok haccept, take_take, List.take_append_drop]
      · cases h
      · cases h

theorem flush_ok (h : Carrier.flush 0 s = (.ok (), s')) : s' = s.flushed := by
  rcases s.flush_cases with hflush | ⟨f, hflush⟩ <;> rw [hflush] at h <;> cases h
  rfl

/-- A wait has a result only if it is the next bytes of the stream. -/
theorem fetched_of_receive {n : Nat} {atEnd : Fault} {v : Vector UInt8 n}
    (h : Carrier.receive 0 n atEnd s = (.ok v, s')) :
    s' = s.advance (s.fetched n) ∧ (s.fetched n).bytes = v.toList := by
  have h' : s.receive n atEnd = (.ok v, s') := h
  rw [receive] at h'
  split at h'
  · cases h'
    exact ⟨rfl, rfl⟩
  · split at h' <;> cases h'

end Script

namespace Conversation

open Script

variable {ε α : Type} {c : Conversation ε α} {s s' : Script} {a : α}

/-- A run that has a result heard the bytes that it took from the stream. -/
theorem hears_of_run (h : c.run 0 s = (.ok a, s')) :
    ∃ heard put, c.Hears s.ledger heard (.ok a) s'.ledger ∧ s.Carries heard put s' := by
  induction c generalizing s with
  | done b =>
    cases h
    exact ⟨[], [], ⟨rfl, rfl, rfl⟩, .refl _⟩
  | fail e => cases h
  | write m f next ih =>
    rw [run] at h
    rcases hwrite : Carrier.write 0 m s with ⟨_ | _ | _, t⟩ <;> rw [hwrite] at h
    · obtain rfl := acceptAll_ok (Nat.le_refl _) hwrite
      obtain ⟨heard, put, hheard, hcarries⟩ := ih h
      rw [ledger_take] at hheard
      exact ⟨heard, _, hheard, (s.take_carries m).trans hcarries⟩
    · cases h
    · cases h
  | flush f next ih =>
    rw [run] at h
    rcases hflush : Carrier.flush 0 s with ⟨_ | _ | _, t⟩ <;> rw [hflush] at h
    · have hflushed := s.flush_carries
      have hstate : s.flush.2 = t := congrArg Prod.snd hflush
      rw [hstate] at hflushed
      obtain rfl := flush_ok hflush
      obtain ⟨heard, put, hheard, hcarries⟩ := ih h
      exact ⟨heard, _, hheard, hflushed.trans hcarries⟩
    · cases h
    · cases h
  | receive n z f next ih =>
    rw [run] at h
    rcases hreceive : Carrier.receive 0 n z s with ⟨v | _ | _, t⟩ <;> rw [hreceive] at h
    · obtain ⟨rfl, hbytes⟩ := fetched_of_receive hreceive
      have hgot := s.receive_carries n z
      have hstate : (s.receive n z).2 = s.advance (s.fetched n) := congrArg Prod.snd hreceive
      rw [hstate, hbytes] at hgot
      obtain ⟨heard, put, hheard, hcarries⟩ := ih v h
      have hledger : (s.advance (s.fetched n)).ledger = s.ledger.read n := by
        show s.ledger.read (s.fetched n).bytes.length = _
        rw [hbytes, v.length_toList]
      rw [hledger] at hheard
      exact ⟨v.toList ++ heard, _, ⟨v, heard, rfl, hheard⟩, hgot.trans hcarries⟩
    · cases h
    · cases h

/-! ## Streams that serve what is heard -/

/-- Bytes that lead to a result lead to it whatever comes behind them. -/
theorem Hears.course {l l' : Ledger} {heard : Bytes} {r : Except ε α} (h : c.Hears l heard r l')
    (tail : Tail) (rest : Bytes) : c.course tail l (heard ++ rest) = (.ofExcept r, l', rest) := by
  induction c generalizing l heard with
  | done b =>
    obtain ⟨rfl, rfl, rfl⟩ := h
    rfl
  | fail e =>
    obtain ⟨rfl, rfl, rfl⟩ := h
    rfl
  | write m f next ih => exact ih h
  | flush f next ih => exact ih h
  | receive n z f next ih =>
    obtain ⟨v, first, rfl, h⟩ := h
    have hlen : v.toList.length = n := v.length_toList
    have hn : n ≤ (v.toList ++ first ++ rest).length := by
      rw [List.append_assoc, List.length_append, hlen]
      omega
    have hhead : head hn = v := by
      apply Vector.toList_inj.mp
      rw [toList_head, List.append_assoc, List.take_left' hlen]
    rw [Conversation.course, dif_pos hn, hhead, List.append_assoc, List.drop_left' hlen]
    exact ih v h

/-- A run on a stream that serves bytes that lead to a result. -/
theorem Hears.run_answers {tail : Tail} {l' : Ledger} {heard rest : Bytes} {r : Except ε α}
    (hs : s.Answers c tail (heard ++ rest)) (h : c.Hears s.ledger heard r l') :
    ∃ s', c.run 0 s = (.ofExcept r, s') ∧ s'.ledger = l' ∧ s'.Holds tail rest := by
  obtain ⟨s', hrun, hledger, -, hholds⟩ := run_eq_course hs
  rw [h.course] at hrun hledger hholds
  exact ⟨s', hrun, hledger, hholds⟩

end Conversation

/-- What is there to be read is there in time for every conversation. -/
theorem Script.Holds.answers {ε α : Type} {tail : Tail} {s : Script} {S : Bytes}
    (h : s.Holds tail S) (c : Conversation ε α) : s.Answers c tail S :=
  ⟨h.willing, h.items.mono fun _ => Nat.le_add_right _ _⟩

end ProxyTunnel
