import ProxyTunnel.Proofs.Stream.Operations

/-!
# Streams with a record of every operation

A `Recorder` is a scripted stream that keeps a list of all single reads, writes and flushes on it
and of what came of each, so that one can say what holds at every moment of a run and not only at
its end. A wait for a block is recorded as the reads that it is made of.

* `fetch_eq_fetchSome`: a wait is a read and a wait for what is still missing;
* `receive_recorder`, `run_recorder`: to record makes no difference to a run.
-/

namespace ProxyTunnel

/-- One operation on a stream, with what came of it. -/
inductive Event where
  | read (got : Outcome Fault Bytes)
  | write (offered : Bytes) (taken : Outcome Fault Nat)
  | flush (done : Outcome Fault Unit)
  | shutdown (done : Outcome Fault Unit)
  deriving DecidableEq, Repr

/-- The bytes that the operation delivered. -/
def Event.got : Event → Bytes
  | .read (.ok got) => got
  | _ => []

/-- The bytes that the stream took. -/
def Event.put : Event → Bytes
  | .write offered (.ok taken) => offered.take taken
  | _ => []

/-- Only writes put anything into the stream. -/
theorem Event.put_eq_nil_or (e : Event) :
    e.put = [] ∨ ∃ offered n, e = .write offered (.ok n) := by
  rcases e with _ | ⟨offered, n | _ | _⟩ | _ | _
  · exact .inl rfl
  · exact .inr ⟨offered, n, rfl⟩
  · exact .inl rfl
  · exact .inl rfl
  · exact .inl rfl
  · exact .inl rfl

/-- Whether the operation leaves anything to go on with: it got bytes, or had some taken, or did
what it should, or was a read that got interrupted. -/
def Event.goesOn : Event → Bool
  | .read (.ok got) => got ≠ []
  | .read (.error f) => f = .interrupted
  | .write _ (.ok taken) => taken ≠ 0
  | .flush (.ok ()) => true
  | .shutdown (.ok ()) => true
  | _ => false

/-- A scripted stream and all that was done on it, in order. -/
structure Recorder where
  script : Script
  events : List Event := []

namespace Recorder

/-- Does one operation and records it. -/
def note {α : Type} (event : Outcome Fault α → Event) (f : Script → Outcome Fault α × Script)
    (r : Recorder) : Outcome Fault α × Recorder :=
  let (o, s) := f r.script
  (o, ⟨s, r.events ++ [event o]⟩)

/-- Reads until `need` bytes are there, in at most `fuel` reads. Interrupted reads are repeated. -/
def collect (level : Nat) (atEnd : Fault) :
    (fuel : Nat) → (need : Nat) → Recorder → Outcome Fault Bytes × Recorder
  | _, 0, r => (.ok [], r)
  | 0, _ + 1, r => (.stalled, r)
  | fuel + 1, need + 1, r =>
    match r.note .read (Carrier.read level (need + 1)) with
    | (.ok got, r) =>
      if got = [] then (.error atEnd, r)
      else
        let (o, r) := collect level atEnd fuel (need + 1 - got.length) r
        (o.map (got ++ ·), r)
    | (.error f, r) =>
      if f = .interrupted then collect level atEnd fuel (need + 1) r else (.error f, r)
    | (.stalled, r) => (.stalled, r)

/-- Waits for a block. Every read but the last uses up an item of the script. -/
def receive (level : Nat) (n : Nat) (atEnd : Fault) (r : Recorder) :
    Outcome Fault (Vector UInt8 n) × Recorder :=
  match r.collect level atEnd (r.script.items.length + 1) n with
  | (.ok got, r) =>
    if h : got.length = n then (.ok ⟨got.toArray, h⟩, r) else (.stalled, r)
  | (.error f, r) => (.error f, r)
  | (.stalled, r) => (.stalled, r)

instance : Carrier Recorder where
  read level max := note .read (Carrier.read level max)
  receive := receive
  drain level := note .read (Carrier.drain level)
  accept level bs := note (.write bs) (Carrier.accept level bs)
  flush level := note .flush (Carrier.flush level)
  shutdown level := note .shutdown (Carrier.shutdown level)
  isCancelled r := r.script.isCancelled

end Recorder

namespace Script

section

variable {written : Nat} {isShut : Bool}

/-- A wait for bytes is one read, and a wait for what that left over. -/
theorem fetch_eq_fetchSome (items : List ReadItem) (n : Nat) :
    fetch written isShut items (n + 1) =
      let f := fetchSome written isShut (n + 1) items
      match f.stop with
      | .complete => (fetch written isShut f.items (n + 1 - f.bytes.length)).cons f.bytes
      | .fault .interrupted => fetch written isShut f.items (n + 1)
      | _ => f := by
  induction items with
  | nil => rfl
  | cons item items ih =>
    cases item with
    | data bs =>
      rw [fetch, fetchSome]
      by_cases hb : bs = []
      · subst hb
        rw [if_neg (by simp), if_pos rfl, ← ih]
        rfl
      · rw [if_neg hb]
        by_cases hn : n + 1 ≤ bs.length
        · have hlen : (bs.take (n + 1)).length = n + 1 := List.length_take_of_le hn
          rw [if_pos hn]
          dsimp only
          rw [hlen, Nat.sub_self]
          simp [fetch, Fetched.cons]
        · have htake : bs.take (n + 1) = bs := List.take_of_length_le (by omega)
          have hdrop : bs.drop (n + 1) = [] := List.drop_of_length_le (by omega)
          rw [if_neg hn, htake, hdrop]
          rfl
    | fault f => cases f <;> rfl
    | wait k =>
      rw [fetch, fetchSome]
      split
      · exact ih
      · rfl
    | waitShutdown =>
      rw [fetch, fetchSome]
      split
      · exact ih
      · rfl
    | _ => rfl

/-- A read that succeeds gets something. If it gets less than it asked for, it has used up an
item. -/
theorem fetchSome_of_complete {items : List ReadItem} {n : Nat}
    (h : (fetchSome written isShut (n + 1) items).stop = .complete) :
    (fetchSome written isShut (n + 1) items).bytes ≠ [] ∧
      (n + 1 ≤ (fetchSome written isShut (n + 1) items).bytes.length ∨
        (fetchSome written isShut (n + 1) items).items.length < items.length) := by
  fun_induction fetchSome written isShut (n + 1) items with
  | case1 => cases h
  | case2 items ih =>
    obtain ⟨hne, hlen⟩ := ih h
    exact ⟨hne, hlen.imp_right (Nat.lt_add_right 1)⟩
  | case3 bs items hb =>
    refine ⟨by simp [hb], ?_⟩
    by_cases hn : n + 1 ≤ bs.length
    · exact .inl (Nat.le_of_eq (List.length_take_of_le hn).symm)
    · have hdrop : bs.drop (n + 1) = [] := List.drop_of_length_le (by omega)
      exact .inr (by simp [hdrop, putBack])
  | case8 k items hk ih =>
    obtain ⟨hne, hlen⟩ := ih h
    exact ⟨hne, hlen.imp_right (Nat.lt_add_right 1)⟩
  | case10 items hk ih =>
    obtain ⟨hne, hlen⟩ := ih h
    exact ⟨hne, hlen.imp_right (Nat.lt_add_right 1)⟩
  | _ => cases h

theorem fetchSome_of_fault {items : List ReadItem} {n : Nat} {f : Fault}
    (h : (fetchSome written isShut n items).stop = .fault f) :
    (fetchSome written isShut n items).items.length < items.length := by
  fun_induction fetchSome written isShut n items with
  | case2 items ih => exact Nat.lt_add_right 1 (ih h)
  | case4 f items => exact Nat.lt_add_one _
  | case8 k items hk ih => exact Nat.lt_add_right 1 (ih h)
  | case10 items hk ih => exact Nat.lt_add_right 1 (ih h)
  | _ => cases h

/-- A read that does not succeed gets nothing. -/
theorem fetchSome_bytes {items : List ReadItem} {n : Nat}
    (h : (fetchSome written isShut n items).stop ≠ .complete) :
    (fetchSome written isShut n items).bytes = [] := by
  fun_induction fetchSome written isShut n items with
  | case2 items ih => exact ih h
  | case3 bs items hb => exact absurd rfl h
  | case8 k items hk ih => exact ih h
  | case10 items hk ih => exact ih h
  | _ => rfl

end

/-- What a wait makes of what was read. -/
def Fetched.outcome (f : Fetched) (atEnd : Fault) : Outcome Fault Bytes :=
  match f.stop with
  | .complete => .ok f.bytes
  | .ended => .error atEnd
  | .fault e => .error e
  | .stalled | .cancelled => .stalled

theorem Fetched.outcome_cons (f : Fetched) (bs : Bytes) (atEnd : Fault) :
    (f.cons bs).outcome atEnd = (f.outcome atEnd).map (bs ++ ·) := by
  obtain ⟨bytes, stop, items⟩ := f
  cases stop <;> rfl

theorem advance_advance (s : Script) {f : Fetched} (hf : f.stop ≠ .cancelled) (g : Fetched) :
    (s.advance f).advance g = s.advance (g.cons f.bytes) := by
  obtain ⟨bytes, stop, items⟩ := g
  simp [advance, Fetched.cons, hf, Nat.add_assoc]
  rfl

theorem advance_fetched_zero (s : Script) : s.advance (s.fetched 0) = s := by
  simp [fetched, fetch, advance]

end Script

namespace Recorder

open Script

variable {r : Recorder} {n : Nat}

theorem collect_eq (atEnd : Fault) {fuel : Nat} (hfuel : n = 0 ∨ r.script.items.length < fuel) :
    (r.collect 0 atEnd fuel n).1 = (r.script.fetched n).outcome atEnd ∧
      (r.collect 0 atEnd fuel n).2.script = r.script.advance (r.script.fetched n) := by
  induction fuel generalizing r n with
  | zero =>
    obtain rfl : n = 0 := by omega
    rw [collect, advance_fetched_zero]
    exact ⟨by simp [fetched, fetch, Fetched.outcome], rfl⟩
  | succ fuel ih =>
    cases n with
    | zero =>
      rw [collect, advance_fetched_zero]
      exact ⟨by simp [fetched, fetch, Fetched.outcome], rfl⟩
    | succ n =>
      have hstep := @fetch_eq_fetchSome r.script.accepted r.script.isShut r.script.items n
      have hread : r.note .read (Carrier.read 0 (n + 1)) =
          ((r.script.read (n + 1)).1, ⟨(r.script.read (n + 1)).2,
            r.events ++ [.read (r.script.read (n + 1)).1]⟩) := rfl
      rw [collect, hread, fetched, hstep, Script.read]
      cases hstop : (fetchSome r.script.accepted r.script.isShut (n + 1) r.script.items).stop with
      | complete =>
        obtain ⟨hne, hlen⟩ := fetchSome_of_complete hstop
        generalize hf : fetchSome r.script.accepted r.script.isShut (n + 1) r.script.items = f at *
        obtain ⟨ho, hs⟩ := ih (n := n + 1 - f.bytes.length)
          (r := ⟨r.script.advance f, r.events ++ [.read (.ok f.bytes)]⟩) (by dsimp [advance]; omega)
        have hadvance := advance_advance r.script (f := f) (by simp [hstop])
        simp only [hstop, if_neg hne, Fetched.outcome_cons]
        exact ⟨congrArg _ ho, hs.trans (hadvance _)⟩
      | ended =>
        have hnil : (fetchSome r.script.accepted r.script.isShut (n + 1) r.script.items).bytes = [] :=
          fetchSome_bytes (by simp [hstop])
        simp [hstop, hnil, Fetched.outcome]
      | fault e =>
        have hnil : (fetchSome r.script.accepted r.script.isShut (n + 1) r.script.items).bytes = [] :=
          fetchSome_bytes (by simp [hstop])
        have hlen := fetchSome_of_fault hstop
        generalize hf : fetchSome r.script.accepted r.script.isShut (n + 1) r.script.items = f at *
        by_cases he : e = .interrupted
        · subst he
          obtain ⟨ho, hs⟩ := ih (n := n + 1)
            (r := ⟨r.script.advance f, r.events ++ [.read (.error .interrupted)]⟩)
            (by dsimp [advance]; omega)
          have hadvance := advance_advance r.script (f := f) (by simp [hstop])
          rw [hnil] at hadvance
          simp only [hstop, if_pos]
          exact ⟨ho, hs.trans (hadvance _)⟩
        · simp [hstop, he, Fetched.outcome]
      | stalled => simp [hstop, Fetched.outcome]
      | cancelled => simp [hstop, Fetched.outcome]

/-- To record a wait makes no difference to it. -/
theorem receive_recorder (r : Recorder) (n : Nat) (atEnd : Fault) :
    (Carrier.receive 0 n atEnd r).1 = (Carrier.receive 0 n atEnd r.script).1 ∧
      (Carrier.receive 0 n atEnd r).2.script = (Carrier.receive 0 n atEnd r.script).2 := by
  obtain ⟨ho, hs⟩ := collect_eq (r := r) (n := n) atEnd (.inr (Nat.lt_add_one _))
  show (r.receive 0 n atEnd).1 = _ ∧ (r.receive 0 n atEnd).2.script = _
  rw [receive]
  rcases hc : r.collect 0 atEnd (r.script.items.length + 1) n with ⟨o, r'⟩
  rw [hc] at ho hs
  dsimp only at ho hs
  subst ho
  cases hstop : (r.script.fetched n).stop with
  | complete =>
    have hlen : (r.script.fetched n).bytes.length = n := length_fetch _ _ _ _ hstop
    have hv := receive_of_complete (v := ⟨(r.script.fetched n).bytes.toArray, hlen⟩) hstop rfl atEnd
    rw [hv, Fetched.outcome, hstop]
    simpa only [dif_pos hlen, true_and] using hs
  | ended =>
    rw [receive_of_ended hstop, Fetched.outcome, hstop]
    exact ⟨rfl, hs⟩
  | fault e =>
    rw [receive_of_fault hstop, Fetched.outcome, hstop]
    exact ⟨rfl, hs⟩
  | stalled =>
    rw [receive_of_stalled hstop, Fetched.outcome, hstop]
    exact ⟨rfl, hs⟩
  | cancelled =>
    rw [receive_of_cancelled hstop, Fetched.outcome, hstop]
    exact ⟨rfl, hs⟩

theorem acceptAll_recorder (r : Recorder) (fuel : Nat) (bs : Bytes) :
    (Carrier.acceptAll 0 fuel bs r).1 = (Carrier.acceptAll 0 fuel bs r.script).1 ∧
      (Carrier.acceptAll 0 fuel bs r).2.script = (Carrier.acceptAll 0 fuel bs r.script).2 := by
  induction fuel generalizing r bs with
  | zero => exact ⟨rfl, rfl⟩
  | succ fuel ih =>
    have haccept : Carrier.accept 0 bs r =
        ((Carrier.accept 0 bs r.script).1, ⟨(Carrier.accept 0 bs r.script).2,
          r.events ++ [.write bs (Carrier.accept 0 bs r.script).1]⟩) := rfl
    rw [Carrier.acceptAll, Carrier.acceptAll, haccept]
    by_cases hb : bs = []
    · rw [if_pos hb, if_pos hb]
      exact ⟨rfl, rfl⟩
    · rw [if_neg hb, if_neg hb]
      rcases Carrier.accept 0 bs r.script with ⟨(_ | k) | e | _, s⟩
      · exact ⟨rfl, rfl⟩
      · exact ih _ _
      · exact ⟨rfl, rfl⟩
      · exact ⟨rfl, rfl⟩

/-- To record a run makes no difference to it. -/
theorem run_recorder {ε α : Type} (c : Conversation ε α) (r : Recorder) :
    (c.run 0 r).1 = (c.run 0 r.script).1 ∧ (c.run 0 r).2.script = (c.run 0 r.script).2 := by
  induction c generalizing r with
  | done a => exact ⟨rfl, rfl⟩
  | fail e => exact ⟨rfl, rfl⟩
  | write m f next ih =>
    obtain ⟨ho, hs⟩ := acceptAll_recorder r m.length m
    rw [Conversation.run, Conversation.run, Carrier.write, Carrier.write]
    rcases hr : Carrier.acceptAll 0 m.length m r with ⟨o, r'⟩
    rcases hr' : Carrier.acceptAll 0 m.length m r.script with ⟨o', s'⟩
    rw [hr, hr'] at ho hs
    dsimp only at ho hs
    subst ho hs
    cases o with
    | ok a => exact ih r'
    | error e => exact ⟨rfl, rfl⟩
    | stalled => exact ⟨rfl, rfl⟩
  | flush f next ih =>
    have hflush : Carrier.flush 0 r = ((Carrier.flush 0 r.script).1,
        ⟨(Carrier.flush 0 r.script).2, r.events ++ [.flush (Carrier.flush 0 r.script).1]⟩) := rfl
    rw [Conversation.run, Conversation.run, hflush]
    rcases Carrier.flush 0 r.script with ⟨_ | _ | _, s'⟩
    · exact ih _
    · exact ⟨rfl, rfl⟩
    · exact ⟨rfl, rfl⟩
  | receive n z f next ih =>
    obtain ⟨ho, hs⟩ := receive_recorder r n z
    rw [Conversation.run, Conversation.run]
    rcases hr : Carrier.receive 0 n z r with ⟨o, r'⟩
    rcases hr' : Carrier.receive 0 n z r.script with ⟨o', s'⟩
    rw [hr, hr'] at ho hs
    dsimp only at ho hs
    subst ho hs
    cases o with
    | ok v => exact ih v r'
    | error e => exact ⟨rfl, rfl⟩
    | stalled => exact ⟨rfl, rfl⟩

end Recorder

end ProxyTunnel
