import ProxyTunnel.Stream.Peer
import ProxyTunnel.Proofs.Stream.Mirrors

/-!
# Peers as plain streams

Inside its session, a peer that has served all its stages and has said farewell is a plain stream:
it says what is left to be read, ends, and takes all that is written (`Peer.mirrors_isServed`).
-/

namespace ProxyTunnel

namespace Script

variable (written : Nat) (isShut : Bool) (bs : Bytes)

/-- A wait for no more than is there. -/
theorem fetch_putBack_of_le {n : Nat} (hn : n ≤ bs.length) :
    fetch written isShut (putBack bs []) n = ⟨bs.take n, .complete, putBack (bs.drop n) []⟩ := by
  cases n with
  | zero => rw [fetch]; rfl
  | succ n =>
    have hb : bs ≠ [] := List.ne_nil_of_length_pos (Nat.lt_of_lt_of_le (Nat.succ_pos n) hn)
    rw [putBack, if_neg hb, fetch, if_pos hn]

/-- A wait for more. -/
theorem fetch_putBack_of_lt {n : Nat} (hn : bs.length < n) :
    fetch written isShut (putBack bs []) n = ⟨bs, .ended, []⟩ := by
  obtain ⟨m, rfl⟩ : ∃ m, n = m + 1 := ⟨n - 1, by omega⟩
  rw [putBack]
  split
  · rename_i hb
    rw [hb, fetch]
  · obtain ⟨k, hk⟩ : ∃ k, m + 1 - bs.length = k + 1 := ⟨m - bs.length, by omega⟩
    rw [fetch, if_neg (Nat.not_le.mpr hn), hk, fetch]
    simp [Fetched.cons]

end Script

namespace Peer

/-- Inside the session all stages are served and the farewell is said; `q` says what is left to read
of that and ends. -/
structure IsServed (p : Peer) (q : Script) : Prop where
  isConfirmed : p.isConfirmed = true
  stages : p.inside.stages = []
  closing : p.closing = .graceful
  strayed : p.strayed = 0
  isShut : p.isShut = false
  isGone : p.isGone = false
  items : q.items = Script.putBack p.inside.outbox []
  maxWrite : q.maxWrite = none
  writeLimit : q.writeLimit = none
  flushFault : q.flushFault = none

namespace IsServed

variable {p : Peer} {q : Script}

theorem atEnd (h : p.IsServed q) : p.atEnd 1 = .ok () := by
  simp [Peer.atEnd, hasFarewell, h.isConfirmed, h.stages, h.closing]

/-- To serve no stages changes nothing. -/
theorem serve (h : p.IsServed q) : p.serve p.inside = p.inside := by
  have hs := h.stages
  rcases hin : p.inside with ⟨stages, received, inbox, outbox⟩
  rw [hin] at hs
  dsimp only at hs
  subst hs
  rw [Peer.serve, Served.advance]

theorem react (h : p.IsServed q) : p.react = p := by
  have hserve := h.serve
  obtain ⟨wire, inside, closing, version, session, strayed, isShut, isGone, isCut⟩ := p
  obtain ⟨hconfirmed, -, rfl, rfl, rfl, rfl, -, -, -, -⟩ := h
  simp [Peer.react, hconfirmed, reactInside, hserve, Tls.headerSize]

theorem read (h : p.IsServed q) (max : Nat) : InStep IsServed (p.read 1 max) (q.read max) := by
  rw [Peer.read, Script.read, h.items]
  by_cases hb : p.inside.outbox = []
  · rw [outbox, if_pos hb, h.atEnd, hb]
    exact ⟨rfl, { h with items := by rw [hb]; rfl }⟩
  · rw [outbox, if_neg hb, Script.putBack, if_neg hb, Script.fetchSome, if_neg hb]
    exact ⟨rfl, { h with items := rfl }⟩

theorem receive (h : p.IsServed q) (n : Nat) (atEnd : Fault) :
    InStep IsServed (p.receive 1 n atEnd) (Carrier.receive 0 n atEnd q) := by
  rw [Peer.receive]
  dsimp only
  split
  · rename_i hn
    have hf : q.fetched n = ⟨p.inside.outbox.take n, .complete,
        Script.putBack (p.inside.outbox.drop n) []⟩ := by
      rw [Script.fetched, h.items]
      exact Script.fetch_putBack_of_le _ _ _ hn
    let v : Vector UInt8 n := ⟨(p.inside.outbox.take n).toArray, List.length_take_of_le hn⟩
    rw [Script.receive_of_complete (v := v) (by rw [hf]) (by rw [hf]; rfl), hf]
    exact ⟨rfl, { h with items := rfl }⟩
  · rename_i hn
    have hf : q.fetched n = ⟨p.inside.outbox, .ended, []⟩ := by
      rw [Script.fetched, h.items]
      exact Script.fetch_putBack_of_lt _ _ _ (Nat.not_le.mp hn)
    rw [Script.receive_of_ended (by rw [hf]), hf, h.atEnd]
    exact ⟨rfl, { h with items := rfl }⟩

theorem accept (h : p.IsServed q) (bs : Bytes) :
    InStep IsServed (p.accept 1 bs) (Carrier.accept 0 bs q) := by
  have hroom : q.room bs.length = bs.length := by
    simp [Script.room, h.maxWrite, h.writeLimit]
  have hconfirm : p.confirm = p := by
    have hs := h.isConfirmed
    rw [Peer.isConfirmed] at hs
    split at hs
    · rename_i indication hsession
      rw [confirm, hsession]
    · cases hs
  have hdelivered : (p.deliver 1 bs).IsServed (q.take bs) := by
    rw [deliver, hconfirm]
    exact { h with
      items := (Script.items_take q bs).trans h.items
      maxWrite := (Script.maxWrite_take q bs).trans h.maxWrite
      writeLimit := (Script.writeLimit_take q bs).trans h.writeLimit
      flushFault := (Script.flushFault_take q bs).trans h.flushFault }
  rw [Peer.accept, h.isGone, h.isShut, hdelivered.react, Script.accept_of_unlimited h.writeLimit,
    hroom, List.take_length]
  exact ⟨rfl, hdelivered⟩

theorem flush (h : p.IsServed q) : InStep IsServed (Outcome.ok (), p) (Carrier.flush 0 q) := by
  rw [Script.flush_of_none h.flushFault]
  exact ⟨rfl, { h with }⟩

end IsServed

/-- In its session a peer that has nothing more to do is a plain stream. -/
theorem mirrors_isServed : Carrier.Mirrors 1 0 IsServed :=
  ⟨IsServed.read, IsServed.receive, IsServed.accept, IsServed.flush⟩

end Peer

end ProxyTunnel
