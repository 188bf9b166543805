import ProxyTunnel.Stream.Script

/-!
# Operations on scripted streams

What single operations do to a scripted stream. If nothing limits what is taken, it makes no
difference how much a single write takes. A stream whose writes and flushes all succeed is
`Willing`.

* `write_of_unlimited`: every message is taken as a whole;
* `flush_of_none`: every flush hands on what was written;
* `receive_of_complete`, `receive_of_ended`, …: a wait for a block, by why reading stopped.
-/

namespace ProxyTunnel

namespace Script

section

variable (s : Script) (m : Bytes)

@[simp] theorem items_take : (s.take m).items = s.items := by
  unfold take; split <;> rfl

@[simp] theorem maxWrite_take : (s.take m).maxWrite = s.maxWrite := by
  unfold take; split <;> rfl

@[simp] theorem writeLimit_take : (s.take m).writeLimit = s.writeLimit := by
  unfold take; split <;> rfl

@[simp] theorem flushFault_take : (s.take m).flushFault = s.flushFault := by
  unfold take; split <;> rfl

@[simp] theorem consumed_take : (s.take m).consumed = s.consumed := by
  unfold take; split <;> rfl

@[simp] theorem sent_take : (s.take m).sent = s.sent := by
  unfold take; split <;> rfl

@[simp] theorem isCancelled_take : (s.take m).isCancelled = s.isCancelled := by
  unfold take; split <;> rfl

@[simp] theorem flushes_take : (s.take m).flushes = s.flushes := by
  unfold take; split <;> rfl

@[simp] theorem accepted_take : (s.take m).accepted = s.accepted + m.length := by
  unfold take
  split
  · rename_i hm
    rw [hm]; rfl
  · rfl

theorem take_nil : s.take [] = s := rfl

/-- Bytes taken one behind another. -/
theorem take_take (xs ys : Bytes) : (s.take xs).take ys = s.take (xs ++ ys) := by
  by_cases hx : xs = []
  · rw [hx, take_nil, List.nil_append]
  by_cases hy : ys = []
  · rw [hy, take_nil, List.append_nil]
  cases hp : s.pending <;> simp [take, hx, hy, hp, Nat.add_assoc]

@[simp] theorem consumed_advance (f : Fetched) :
    (s.advance f).consumed = s.consumed + f.bytes.length := rfl

/-- The stream after a flush that succeeded. -/
def flushed : Script :=
  { s with flushes := s.flushes + 1, sent := s.sent ++ s.pending.toList, pending := none }

@[simp] theorem items_flushed : s.flushed.items = s.items := rfl

@[simp] theorem consumed_flushed : s.flushed.consumed = s.consumed := rfl

@[simp] theorem flushes_flushed : s.flushed.flushes = s.flushes + 1 := rfl

@[simp] theorem sent_flushed : s.flushed.sent = s.sent ++ s.pending.toList := rfl

theorem flush_of_none {s : Script} (h : s.flushFault = none) :
    Carrier.flush 0 s = (.ok (), s.flushed) := by
  show s.flush = _
  simp only [flush, flushed, h]

end

/-- A flush hands on what was written, or fails and hands on nothing. -/
theorem flush_cases (s : Script) :
    Carrier.flush 0 s = (.ok (), s.flushed) ∨
      ∃ f, Carrier.flush 0 s = (.error f, { s with flushes := s.flushes + 1 }) := by
  show s.flush = _ ∨ ∃ f, s.flush = _
  rw [flush]
  dsimp only
  split
  · split
    · exact .inr ⟨_, rfl⟩
    · exact .inl rfl
  · exact .inl rfl

/-! ## Writing -/

section

variable {s : Script}

theorem room_pos (ht : s.maxWrite ≠ some 0) (hu : s.writeLimit = none) {n : Nat} (hn : 0 < n) :
    0 < s.room n ∧ s.room n ≤ n := by
  cases hm : s.maxWrite with
  | none => simp [room, hm, hu, hn]
  | some k =>
    have : k ≠ 0 := fun hk => ht (by rw [hm, hk])
    simp only [room, hm, hu, Option.map_some, Option.getD_some, Option.map_none, Option.getD_none]
    omega

theorem accept_of_unlimited (hu : s.writeLimit = none) (m : Bytes) :
    Carrier.accept 0 m s = (.ok (s.room m.length), s.take (m.take (s.room m.length))) := by
  show s.accept m = _
  simp only [accept, hu]

theorem acceptAll_of_unlimited (ht : s.maxWrite ≠ some 0) (hu : s.writeLimit = none) {fuel : Nat}
    {m : Bytes} (hm : m.length ≤ fuel) :
    Carrier.acceptAll 0 fuel m s = (.ok (), s.take m) := by
  induction fuel generalizing s m with
  | zero =>
    obtain rfl : m = [] := List.eq_nil_of_length_eq_zero (by omega)
    rfl
  | succ fuel ih =>
    rw [Carrier.acceptAll]
    split
    · rename_i h₀
      rw [h₀, take_nil]
    · rename_i h₀
      have hpos : 0 < m.length := List.length_pos_iff.mpr h₀
      obtain ⟨h₁, h₂⟩ := room_pos ht hu hpos
      rw [accept_of_unlimited hu]
      obtain ⟨k, hk⟩ : ∃ k, s.room m.length = k + 1 := ⟨_, (Nat.succ_pred_eq_of_pos h₁).symm⟩
      simp only [hk]
      rw [ih (by rwa [maxWrite_take]) (by rwa [writeLimit_take])
        (by rw [List.length_drop]; omega), take_take, List.take_append_drop]

/-- If nothing limits what is taken, every message is taken as a whole. -/
theorem write_of_unlimited (ht : s.maxWrite ≠ some 0) (hu : s.writeLimit = none) (m : Bytes) :
    Carrier.write 0 m s = (.ok (), s.take m) := acceptAll_of_unlimited ht hu (Nat.le_refl _)

end

/-! ## All that was taken -/

/-- All bytes that the stream took, flushed or not. -/
def said (s : Script) : Bytes := (s.sent ++ s.pending.toList).flatMap Message.bytes

theorem said_take (s : Script) (m : Bytes) : (s.take m).said = s.said ++ m := by
  by_cases hm : m = []
  · rw [hm, take_nil, List.append_nil]
  · cases hp : s.pending <;> simp [said, take, hm, hp]

theorem said_flushed (s : Script) : s.flushed.said = s.said := by
  simp [said, flushed]

/-! ## Waiting for blocks -/

section

variable {s : Script} {n : Nat}

/-- What a wait for `n` bytes reads. -/
def fetched (s : Script) (n : Nat) : Fetched := fetch s.accepted s.isShut s.items n

/-- However a wait ends, the stream is read as far as it got. -/
theorem receive_snd (s : Script) (n : Nat) (atEnd : Fault) :
    (Carrier.receive 0 n atEnd s).2 = s.advance (s.fetched n) := by
  show (s.receive n atEnd).2 = _
  rw [receive]
  split
  · rfl
  · split <;> rfl

/-- Only a wait that gets all its bytes has a result. -/
theorem stop_of_receive {v : Vector UInt8 n} {s' : Script} {atEnd : Fault}
    (h : Carrier.receive 0 n atEnd s = (.ok v, s')) : (s.fetched n).stop = .complete := by
  have h' : s.receive n atEnd = (.ok v, s') := h
  rw [receive] at h'
  split at h'
  · assumption
  · split at h' <;> cases h'

theorem receive_of_complete {v : Vector UInt8 n} (hs : (s.fetched n).stop = .complete)
    (hb : (s.fetched n).bytes = v.toList) (atEnd : Fault) :
    Carrier.receive 0 n atEnd s = (.ok v, s.advance (s.fetched n)) := by
  show s.receive n atEnd = _
  rw [receive]
  refine (dif_pos hs).trans ?_
  congr 2
  have hb' : (fetch s.accepted s.isShut s.items n).bytes = v.toList := hb
  apply Vector.toList_inj.mp
  simp [hb']

theorem receive_of_ended (hs : (s.fetched n).stop = .ended) (atEnd : Fault) :
    Carrier.receive 0 n atEnd s = (.error atEnd, s.advance (s.fetched n)) := by
  have hs' : (fetch s.accepted s.isShut s.items n).stop = .ended := hs
  show s.receive n atEnd = _
  simp [receive, hs', fetched]

theorem receive_of_fault {f : Fault} (hs : (s.fetched n).stop = .fault f) (atEnd : Fault) :
    Carrier.receive 0 n atEnd s = (.error f, s.advance (s.fetched n)) := by
  have hs' : (fetch s.accepted s.isShut s.items n).stop = .fault f := hs
  show s.receive n atEnd = _
  simp [receive, hs', fetched]

theorem receive_of_stalled (hs : (s.fetched n).stop = .stalled) (atEnd : Fault) :
    Carrier.receive 0 n atEnd s = (.stalled, s.advance (s.fetched n)) := by
  have hs' : (fetch s.accepted s.isShut s.items n).stop = .stalled := hs
  show s.receive n atEnd = _
  simp [receive, hs', fetched]

theorem receive_of_cancelled (hs : (s.fetched n).stop = .cancelled) (atEnd : Fault) :
    Carrier.receive 0 n atEnd s = (.stalled, s.advance (s.fetched n)) := by
  have hs' : (fetch s.accepted s.isShut s.items n).stop = .cancelled := hs
  show s.receive n atEnd = _
  simp [receive, hs', fetched]

end

/-! ## Willing streams -/

/-- Every write takes something, and no write and no flush fails. -/
structure Willing (s : Script) : Prop where
  takes : s.maxWrite ≠ some 0
  unlimited : s.writeLimit = none
  flushes : s.flushFault = none

section

variable {s : Script}

theorem Willing.take (h : s.Willing) (m : Bytes) : (s.take m).Willing := by
  constructor
  · rw [maxWrite_take]; exact h.takes
  · rw [writeLimit_take]; exact h.unlimited
  · rw [flushFault_take]; exact h.flushes

theorem Willing.flushed (h : s.Willing) : s.flushed.Willing := ⟨h.takes, h.unlimited, h.flushes⟩

theorem Willing.advance (h : s.Willing) (f : Fetched) : (s.advance f).Willing :=
  ⟨h.takes, h.unlimited, h.flushes⟩

theorem Willing.write_eq (h : s.Willing) (m : Bytes) :
    Carrier.write 0 m s = (.ok (), s.take m) := write_of_unlimited h.takes h.unlimited m

theorem Willing.flush_eq (h : s.Willing) : Carrier.flush 0 s = (.ok (), s.flushed) :=
  flush_of_none h.flushes

end

end Script

end ProxyTunnel
