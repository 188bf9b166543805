import ProxyTunnel.Proofs.Stream.Hearing
import ProxyTunnel.Proofs.Stream.Operations

/-!
# Streams that say something and end

A stream on which the other end says some bytes, in any pieces, and then nothing more, and on which
all writes and flushes succeed (`Says`). On such a stream a run of a conversation is what the
conversation hears:

* `Hears.run`: it ends with the result, the ledger and the bytes left over that it should;
* `hears_or_ends`: if it hears too little, the error is that the stream ended, and all was read;
* `run_eq_iff`: the results other than that are exactly those that are heard.
-/

namespace ProxyTunnel

namespace Script

/-- Items that deliver some bytes, in any pieces and with interruptions between them, and then end
the stream. -/
inductive Delivers : List ReadItem → Bytes → Prop where
  | nil : Delivers [] []
  | ended (items : List ReadItem) : Delivers (.ended :: items) []
  | data (bs : Bytes) {items : List ReadItem} {rest : Bytes} :
    Delivers items rest → Delivers (.data bs :: items) (bs ++ rest)
  | interrupted {items : List ReadItem} {rest : Bytes} :
    Delivers items rest → Delivers (.fault .interrupted :: items) rest

theorem Delivers.putBack {items : List ReadItem} {rest : Bytes} (h : Delivers items rest)
    (bs : Bytes) : Delivers (putBack bs items) (bs ++ rest) := by
  unfold Script.putBack
  split
  · rename_i hb
    rw [hb]; exact h
  · exact .data bs h

/-- As many bytes as are there can be read at once. -/
theorem Delivers.fetch_of_le {items : List ReadItem} {bs : Bytes} (h : Delivers items bs)
    (written : Nat) (isShut : Bool) {n : Nat} (hn : n ≤ bs.length) :
    (fetch written isShut items n).bytes = bs.take n ∧
      (fetch written isShut items n).stop = .complete ∧
      Delivers (fetch written isShut items n).items (bs.drop n) := by
  induction h generalizing n with
  | nil =>
    obtain rfl : n = 0 := by simpa using hn
    simp [fetch, Delivers.nil]
  | ended items =>
    obtain rfl : n = 0 := by simpa using hn
    simp [fetch, Delivers.ended]
  | @data bs items rest h ih =>
    cases n with
    | zero => exact ⟨rfl, rfl, .data bs h⟩
    | succ n =>
      rw [List.length_append] at hn
      rw [fetch]
      split
      · rename_i hb
        refine ⟨?_, rfl, ?_⟩
        · rw [List.take_append_of_le_length hb]
        · rw [List.drop_append_of_le_length hb]; exact h.putBack _
      · obtain ⟨h₁, h₂, h₃⟩ := ih (n := n + 1 - bs.length) (by omega)
        refine ⟨?_, h₂, ?_⟩
        · show bs ++ _ = _
          rw [h₁, List.take_append, List.take_of_length_le (l := bs) (by omega)]
        · rw [List.drop_append, List.drop_of_length_le (by omega)]; exact h₃
  | @interrupted items rest h ih =>
    cases n with
    | zero => exact ⟨rfl, rfl, .interrupted h⟩
    | succ n => exact ih hn

/-- Who wants more bytes than are there gets what is there. -/
theorem Delivers.fetch_of_lt {items : List ReadItem} {bs : Bytes} (h : Delivers items bs)
    (written : Nat) (isShut : Bool) {n : Nat} (hn : bs.length < n) :
    (fetch written isShut items n).bytes = bs ∧ (fetch written isShut items n).stop = .ended ∧
      Delivers (fetch written isShut items n).items [] := by
  induction h generalizing n with
  | nil =>
    obtain ⟨n, rfl⟩ : ∃ m, n = m + 1 := ⟨n - 1, by simp at hn; omega⟩
    exact ⟨rfl, rfl, .nil⟩
  | ended items =>
    obtain ⟨n, rfl⟩ : ∃ m, n = m + 1 := ⟨n - 1, by simp at hn; omega⟩
    exact ⟨rfl, rfl, .ended items⟩
  | @data bs items rest h ih =>
    obtain ⟨n, rfl⟩ : ∃ m, n = m + 1 := ⟨n - 1, by omega⟩
    rw [List.length_append] at hn
    obtain ⟨h₁, h₂, h₃⟩ := ih (n := n + 1 - bs.length) (by omega)
    rw [fetch, if_neg (by omega)]
    exact ⟨congrArg (bs ++ ·) h₁, h₂, h₃⟩
  | @interrupted items rest h ih =>
    obtain ⟨n, rfl⟩ : ∃ m, n = m + 1 := ⟨n - 1, by omega⟩
    exact ih hn

/-- However much is wanted at once, what is not read is still to come. -/
theorem Delivers.fetch {items : List ReadItem} {bs : Bytes} (h : Delivers items bs) (written : Nat)
    (isShut : Bool) (n : Nat) :
    ∃ rest, bs = (fetch written isShut items n).bytes ++ rest ∧
      Delivers (Script.fetch written isShut items n).items rest := by
  rcases Nat.lt_or_ge bs.length n with hn | hn
  · obtain ⟨hbytes, -, hrest⟩ := h.fetch_of_lt written isShut hn
    exact ⟨[], by rw [hbytes, List.append_nil], hrest⟩
  · obtain ⟨hbytes, -, hrest⟩ := h.fetch_of_le written isShut hn
    exact ⟨bs.drop n, by rw [hbytes, List.take_append_drop], hrest⟩

theorem Delivers.fetchSome {items : List ReadItem} {bs : Bytes} (h : Delivers items bs)
    (written : Nat) (isShut : Bool) (max : Nat) :
    ∃ rest, bs = (fetchSome written isShut max items).bytes ++ rest ∧
      Delivers (Script.fetchSome written isShut max items).items rest := by
  induction h with
  | nil => exact ⟨[], rfl, .nil⟩
  | ended items => exact ⟨[], rfl, .ended items⟩
  | data bs h ih =>
    rw [Script.fetchSome]
    split
    · rename_i hb
      subst hb
      exact ih
    · refine ⟨bs.drop max ++ _, ?_, h.putBack _⟩
      rw [← List.append_assoc, List.take_append_drop]
  | interrupted h ih => exact ⟨_, rfl, h⟩

/-- The other end says `bs` and no more, and every write and flush succeeds. -/
structure Says (s : Script) (bs : Bytes) : Prop where
  items : Delivers s.items bs
  takes : s.maxWrite ≠ some 0
  unlimited : s.writeLimit = none
  flushes : s.flushFault = none

/-- The ledger of a stream. -/
def ledger (s : Script) : Ledger := ⟨s.consumed, s.sent, s.pending⟩

theorem ledger_of_settled {s : Script} (h : s.pending = none) :
    s.ledger = ⟨s.consumed, s.sent, none⟩ := by
  rw [ledger, h]

theorem Says.willing {s : Script} {bs : Bytes} (h : s.Says bs) : s.Willing :=
  ⟨h.takes, h.unlimited, h.flushes⟩

theorem Says.take {s : Script} {bs : Bytes} (h : s.Says bs) (m : Bytes) : (s.take m).Says bs := by
  unfold Script.take
  split
  · exact h
  · exact ⟨h.items, h.takes, h.unlimited, h.flushes⟩

theorem ledger_take (s : Script) (m : Bytes) : (s.take m).ledger = s.ledger.write m := by
  by_cases hm : m = []
  · rw [hm]; rfl
  cases hp : s.pending <;> simp [Script.take, Ledger.write, ledger, hm, hp]

/-- Every message is taken as a whole. -/
theorem Says.write_eq {s : Script} {bs : Bytes} (h : s.Says bs) (m : Bytes) :
    Carrier.write 0 m s = (.ok (), s.take m) := h.willing.write_eq m

/-- Every flush succeeds. -/
theorem Says.flush_spec {s : Script} {bs : Bytes} (h : s.Says bs) :
    ∃ s', Carrier.flush 0 s = (.ok (), s') ∧ s'.Says bs ∧ s'.ledger = s.ledger.flush :=
  ⟨s.flushed, h.willing.flush_eq, ⟨h.items, h.takes, h.unlimited, h.flushes⟩, rfl⟩

/-- Who waits for bytes that are there gets them. -/
theorem Says.receive_append {s : Script} {n : Nat} {v : Vector UInt8 n} {rest : Bytes}
    (h : s.Says (v.toList ++ rest)) (atEnd : Fault) :
    ∃ s', Carrier.receive 0 n atEnd s = (.ok v, s') ∧ s'.Says rest ∧
      s'.ledger = s.ledger.read n := by
  have hlen : v.toList.length = n := v.length_toList
  obtain ⟨h₁, h₂, h₃⟩ := h.items.fetch_of_le s.accepted s.isShut (n := n)
    (by rw [List.length_append, hlen]; omega)
  rw [List.take_left' hlen] at h₁
  rw [List.drop_left' hlen] at h₃
  refine ⟨s.advance (fetch s.accepted s.isShut s.items n), ?_,
    ⟨h₃, h.takes, h.unlimited, h.flushes⟩, ?_⟩
  · exact receive_of_complete h₂ h₁ atEnd
  · simp [ledger, advance, Ledger.read, h₁]

/-- Who waits for more bytes than are there finds the end of the stream. -/
theorem Says.receive_short {s : Script} {n : Nat} {bs : Bytes} (h : s.Says bs) (hn : bs.length < n)
    (atEnd : Fault) :
    ∃ s', Carrier.receive 0 n atEnd s = (.error atEnd, s') ∧ s'.Says [] ∧
      s'.ledger = s.ledger.read bs.length := by
  obtain ⟨h₁, h₂, h₃⟩ := h.items.fetch_of_lt s.accepted s.isShut hn
  refine ⟨s.advance (fetch s.accepted s.isShut s.items n), ?_,
    ⟨h₃, h.takes, h.unlimited, h.flushes⟩, ?_⟩
  · exact receive_of_ended h₂ atEnd
  · simp [ledger, advance, Ledger.read, h₁]

end Script

namespace Conversation
variable {ε α : Type}

theorem exists_block {S : Bytes} {n : Nat} (hn : n ≤ S.length) :
    ∃ (v : Vector UInt8 n) (rest : Bytes), S = v.toList ++ rest :=
  ⟨⟨(S.take n).toArray, by simp [hn]⟩, S.drop n, (List.take_append_drop n S).symm⟩

/-- A conversation that ends once it has heard some bytes ends so on every stream that says them. -/
theorem Hears.run {c : Conversation ε α} {heard rest : Bytes} {r : Except ε α} {l' : Ledger}
    {s : Script}
    (hs : s.Says (heard ++ rest)) (h : c.Hears s.ledger heard r l') :
    (c.run 0 s).1 = .ofExcept r ∧ (c.run 0 s).2.Says rest ∧ (c.run 0 s).2.ledger = l' := by
  induction c generalizing s heard with
  | done a =>
    obtain ⟨rfl, rfl, rfl⟩ := h
    exact ⟨rfl, hs, rfl⟩
  | fail e =>
    obtain ⟨rfl, rfl, rfl⟩ := h
    exact ⟨rfl, hs, rfl⟩
  | write m f next ih =>
    rw [Conversation.run, hs.write_eq]
    exact ih (hs.take m) (by rw [Script.ledger_take]; exact h)
  | flush f next ih =>
    obtain ⟨s', hf, hs', hl⟩ := hs.flush_spec
    rw [Conversation.run, hf]
    exact ih hs' (by rw [hl]; exact h)
  | receive n z f next ih =>
    obtain ⟨v, tail, rfl, h⟩ := h
    rw [List.append_assoc] at hs
    obtain ⟨s', hf, hs', hl⟩ := hs.receive_append z
    rw [Conversation.run, hf]
    exact ih v hs' (by rw [hl]; exact h)

/-- On a stream that ends, a conversation either hears all that it needs or runs into the end. -/
theorem hears_or_ends {p : ε → Prop} {c : Conversation ε α} (hc : c.EndsWith p) {bs : Bytes}
    {s : Script} (hs : s.Says bs) :
    (∃ heard rest r l', bs = heard ++ rest ∧ c.Hears s.ledger heard r l') ∨
      (∃ e, p e ∧ (c.run 0 s).1 = .error e) ∧ (c.run 0 s).2.Says [] ∧
        (c.run 0 s).2.ledger.consumed = s.ledger.consumed + bs.length := by
  induction c generalizing s bs with
  | done a => exact .inl ⟨[], bs, .ok a, _, rfl, rfl, rfl, rfl⟩
  | fail x => exact .inl ⟨[], bs, .error x, _, rfl, rfl, rfl, rfl⟩
  | write m f next ih =>
    rw [Conversation.run, hs.write_eq]
    have := ih hc (hs.take m)
    rwa [Script.ledger_take, Ledger.consumed_write] at this
  | flush f next ih =>
    obtain ⟨s', hf, hs', hl⟩ := hs.flush_spec
    rw [Conversation.run, hf]
    have := ih hc hs'
    rwa [hl] at this
  | receive n z f next ih =>
    obtain ⟨hz, hnext⟩ := hc
    rcases Nat.lt_or_ge bs.length n with hn | hn
    · obtain ⟨s', hf, hs', hl⟩ := hs.receive_short hn z
      refine .inr ?_
      rw [Conversation.run, hf]
      exact ⟨⟨f z, hz, rfl⟩, hs', by rw [hl]; rfl⟩
    · obtain ⟨v, rest, rfl⟩ := exists_block hn
      obtain ⟨s', hf, hs', hl⟩ := hs.receive_append z
      rw [Conversation.run, hf]
      rcases ih v (hnext v) hs' with ⟨heard, tail, r, l', rfl, h⟩ | ⟨h₁, h₂, h₃⟩
      · refine .inl ⟨v.toList ++ heard, tail, r, l', by rw [List.append_assoc], v, heard, rfl, ?_⟩
        rw [← hl]
        exact h
      · refine .inr ⟨h₁, h₂, ?_⟩
        rw [h₃, hl, List.length_append, v.length_toList]
        exact Nat.add_assoc _ _ _

/-- On a stream that ends, the results other than that it ended are those that are heard. -/
theorem run_eq_iff {p : ε → Prop} {c : Conversation ε α} (hc : c.EndsWith p) {bs : Bytes}
    {s : Script} (hs : s.Says bs) {r : Except ε α} (hr : ∀ e, r = .error e → ¬ p e) :
    (c.run 0 s).1 = .ofExcept r ↔
      ∃ heard rest l', bs = heard ++ rest ∧ c.Hears s.ledger heard r l' := by
  constructor
  · intro h
    rcases hears_or_ends hc hs with ⟨heard, rest, r', l', rfl, hh⟩ | ⟨⟨e, hp, he⟩, -, -⟩
    · obtain rfl := Outcome.ofExcept_inj ((hh.run hs).1.symm.trans h)
      exact ⟨heard, rest, l', rfl, hh⟩
    · exact absurd hp (hr e (Outcome.ofExcept_inj (h.symm.trans he)))
  · intro h
    obtain ⟨heard, rest, l', rfl, h⟩ := h
    exact (h.run hs).1

end Conversation

end ProxyTunnel
