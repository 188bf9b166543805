import ProxyTunnel.Proofs.Stream.Alike
import ProxyTunnel.Proofs.Stream.Recorder

/-!
# Being told to give up

A script that tells whoever waits to give up as soon as more than its first bytes are asked for
(`Script.cancelledAt`), beside the same script without that.

* `ReadsBehind`: whether a run reads, or tries to read, behind so many bytes;
* `fetch_cancelAt`: a wait that stays in front of the place is not touched, any other gets the bytes
  in front of it and is told to give up;
* `collect_readsBehind`: which of them it is, by the single reads of the wait.
-/

namespace ProxyTunnel

/-- How far an operation looks behind the bytes that were read before it. A read looks at all it
gets, and at one byte at least. -/
def Event.reach : Event → Nat
  | .read o => max 1 (Event.read o).got.length
  | _ => 0

theorem Event.length_got_le_reach (e : Event) : e.got.length ≤ e.reach := by
  cases e with
  | read o => exact Nat.le_max_right _ _
  | _ => exact Nat.le_refl 0

/-- One of the operations reads, or tries to read, behind the first `c` bytes. -/
def ReadsBehind (c : Nat) (events : List Event) : Prop :=
  ∃ before e behind, events = before ++ e :: behind ∧
    c < (before.flatMap Event.got).length + e.reach

theorem not_readsBehind_nil (c : Nat) : ¬ReadsBehind c [] := by
  rintro ⟨before, e, behind, h, -⟩
  simp at h

theorem readsBehind_cons (c : Nat) (e : Event) (events : List Event) :
    ReadsBehind c (e :: events) ↔ c < e.reach ∨ ReadsBehind (c - e.got.length) events := by
  have hreach := e.length_got_le_reach
  constructor
  · rintro ⟨_ | ⟨e, before⟩, e', behind, h, hc⟩
    · cases h
      exact .inl (by simpa using hc)
    · cases h
      rw [List.flatMap_cons, List.length_append] at hc
      by_cases hlong : c < e.got.length
      · exact .inl (by omega)
      · exact .inr ⟨before, e', behind, rfl, by omega⟩
  · rintro (hc | ⟨before, e', behind, rfl, hc⟩)
    · exact ⟨[], e, events, rfl, by simpa using hc⟩
    · refine ⟨e :: before, e', behind, rfl, ?_⟩
      rw [List.flatMap_cons, List.length_append]
      omega

instance ReadsBehind.decidable : (c : Nat) → (events : List Event) →
    Decidable (ReadsBehind c events)
  | c, [] => .isFalse (not_readsBehind_nil c)
  | c, e :: events =>
    have := ReadsBehind.decidable (c - e.got.length) events
    decidable_of_iff _ (readsBehind_cons c e events).symm

theorem readsBehind_append (c : Nat) (es fs : List Event) :
    ReadsBehind c (es ++ fs) ↔
      ReadsBehind c es ∨ ReadsBehind (c - (es.flatMap Event.got).length) fs := by
  induction es generalizing c with
  | nil => simp [not_readsBehind_nil]
  | cons e es ih =>
    rw [List.cons_append, readsBehind_cons, readsBehind_cons, ih, or_assoc, List.flatMap_cons,
      List.length_append, Nat.sub_sub]

/-- Operations that are no reads look at nothing. -/
theorem readsBehind_append_of_reach {es : List Event} (hes : ∀ e ∈ es, e.reach = 0) (c : Nat)
    (fs : List Event) : ReadsBehind c (es ++ fs) ↔ ReadsBehind c fs := by
  induction es with
  | nil => rfl
  | cons e es ih =>
    have he := hes e List.mem_cons_self
    have hgot : e.got.length = 0 := Nat.le_zero.mp (he ▸ e.length_got_le_reach)
    rw [List.cons_append, readsBehind_cons, he, hgot, Nat.sub_zero,
      ih fun e h => hes e (List.mem_cons_of_mem _ h)]
    simp

theorem not_readsBehind_of_reach {es : List Event} (hes : ∀ e ∈ es, e.reach = 0) (c : Nat) :
    ¬ReadsBehind c es := by
  have h := (readsBehind_append_of_reach hes c []).not.mpr (not_readsBehind_nil c)
  rwa [List.append_nil] at h

namespace Script

/-- The items with a call to give up right behind the first `c` bytes; as they are if there are not
so many. -/
def cancelAt : (c : Nat) → List ReadItem → List ReadItem
  | 0, items => .cancel :: items
  | _ + 1, [] => []
  | c + 1, .data bs :: items =>
    if c + 1 ≤ bs.length then .data (bs.take (c + 1)) :: .cancel :: putBack (bs.drop (c + 1)) items
    else .data bs :: cancelAt (c + 1 - bs.length) items
  | c + 1, item :: items => item :: cancelAt (c + 1) items

/-- The stream that calls to give up when it is read behind its next `c` bytes. -/
def cancelledAt (c : Nat) (s : Script) : Script := { s with items := cancelAt c s.items }

/-- How far a wait looked: at all it got, and one byte further if that was not enough. -/
def Fetched.reach (f : Fetched) : Nat :=
  match f.stop with
  | .complete => f.bytes.length
  | _ => f.bytes.length + 1

theorem Fetched.reach_cons (bs : Bytes) (f : Fetched) :
    (f.cons bs).reach = bs.length + f.reach := by
  obtain ⟨bytes, stop, items⟩ := f
  cases stop <;> simp [reach, cons, Nat.add_assoc]

theorem Fetched.reach_of_complete {f : Fetched} (h : f.stop = .complete) :
    f.reach = f.bytes.length := by
  rw [reach, h]

theorem Fetched.reach_of_ne {f : Fetched} (h : f.stop ≠ .complete) :
    f.reach = f.bytes.length + 1 := by
  rw [reach]
  split
  · contradiction
  · rfl

theorem Fetched.length_le_reach (f : Fetched) : f.bytes.length ≤ f.reach := by
  rw [reach]
  split <;> omega

section

variable {c n : Nat} {bs : Bytes} {items : List ReadItem}

theorem cancelAt_zero (items : List ReadItem) : cancelAt 0 items = .cancel :: items := by
  rw [cancelAt]

theorem cancelAt_within (hpos : 0 < c) (hc : c ≤ bs.length) (items : List ReadItem) :
    cancelAt c (.data bs :: items) =
      .data (bs.take c) :: .cancel :: putBack (bs.drop c) items := by
  obtain ⟨c, rfl⟩ := Nat.exists_eq_add_one.mpr hpos
  rw [cancelAt, if_pos hc]

theorem cancelAt_beyond (hc : bs.length < c) (items : List ReadItem) :
    cancelAt c (.data bs :: items) = .data bs :: cancelAt (c - bs.length) items := by
  obtain ⟨c, rfl⟩ := Nat.exists_eq_add_one.mpr (Nat.zero_lt_of_lt hc)
  rw [cancelAt, if_neg (by omega)]

theorem cancelAt_putBack (bs : Bytes) (c : Nat) (items : List ReadItem) :
    cancelAt (bs.length + c) (putBack bs items) = putBack bs (cancelAt c items) := by
  unfold putBack
  split
  · rename_i hb
    simp [hb]
  · rename_i hb
    have hpos := List.length_pos_iff.mpr hb
    by_cases hc : c = 0
    · subst hc
      rw [Nat.add_zero, cancelAt_within hpos (Nat.le_refl _), List.take_length, List.drop_length,
        cancelAt_zero]
      rfl
    · rw [cancelAt_beyond (by omega), Nat.add_sub_cancel_left]

/-- The call to give up within bytes that are put back. -/
theorem cancelAt_putBack_within (hc : c ≤ bs.length) (items : List ReadItem) :
    cancelAt c (putBack bs items) =
      putBack (bs.take c) (.cancel :: putBack (bs.drop c) items) := by
  by_cases hzero : c = 0
  · subst hzero
    simp [cancelAt, putBack]
  · have hne : bs ≠ [] := by
      rintro rfl
      exact hzero (Nat.le_zero.mp hc)
    have htake : bs.take c ≠ [] := by simp [hzero, hne]
    rw [putBack, if_neg hne, cancelAt_within (by omega) hc, putBack.eq_def (bs.take c),
      if_neg htake]

/-- A wait for some bytes looks at one at least. -/
theorem reach_fetch_pos (written : Nat) (isShut : Bool) (items : List ReadItem) (n : Nat) :
    0 < (fetch written isShut items (n + 1)).reach := by
  by_cases h : (fetch written isShut items (n + 1)).stop = .complete
  · rw [Fetched.reach_of_complete h, length_fetch _ _ _ _ h]
    exact n.succ_pos
  · rw [Fetched.reach_of_ne h]
    exact Nat.succ_pos _

/-- A wait that takes its bytes from one block of data. -/
theorem fetch_cancelAt_part {written : Nat} {isShut : Bool} {bs : Bytes} {n : Nat}
    (hn : n + 1 ≤ bs.length) (c : Nat) (items : List ReadItem) :
    let f := fetch written isShut (.data bs :: items) (n + 1)
    let f' := fetch written isShut (cancelAt (c + 1) (.data bs :: items)) (n + 1)
    (f.reach ≤ c + 1 → f' = ⟨f.bytes, f.stop, cancelAt (c + 1 - f.bytes.length) f.items⟩) ∧
      (c + 1 < f.reach → f'.stop = .cancelled ∧ f'.bytes.length = c + 1) := by
  dsimp only
  rw [fetch, if_pos hn]
  have htake : (bs.take (n + 1)).length = n + 1 := List.length_take_of_le hn
  have hdrop : (bs.drop (n + 1)).length = bs.length - (n + 1) := List.length_drop
  simp only [Fetched.reach, htake]
  by_cases hc : c + 1 ≤ bs.length
  · have hlength : (bs.take (c + 1)).length = c + 1 := List.length_take_of_le hc
    rw [cancelAt_within (by omega) hc, fetch, hlength]
    constructor
    · intro hreach
      rw [if_pos (by omega), List.take_take, Nat.min_eq_left (by omega), List.drop_take,
        cancelAt_putBack_within (by omega), List.drop_drop,
        show n + 1 + (c + 1 - (n + 1)) = c + 1 by omega]
    · intro hreach
      obtain ⟨m, hm⟩ : ∃ m, n + 1 - (c + 1) = m + 1 := ⟨n - (c + 1), by omega⟩
      rw [if_neg (by omega), hm]
      exact ⟨rfl, by rw [Fetched.cons, fetch, List.append_nil, hlength]⟩
  · rw [cancelAt_beyond (by omega), fetch, if_pos hn]
    refine ⟨fun _ => ?_, by omega⟩
    rw [show c + 1 - (n + 1) = (bs.drop (n + 1)).length + (c + 1 - bs.length) by omega,
      cancelAt_putBack]

/-- A wait that takes a whole block of data, and more. -/
theorem fetch_cancelAt_whole {written : Nat} {isShut : Bool} {bs : Bytes} {n : Nat}
    (hn : ¬n + 1 ≤ bs.length) {c : Nat} {items : List ReadItem}
    (ih : ∀ c n, let f := fetch written isShut items n
      let f' := fetch written isShut (cancelAt c items) n
      (f.reach ≤ c → f' = ⟨f.bytes, f.stop, cancelAt (c - f.bytes.length) f.items⟩) ∧
        (c < f.reach → f'.stop = .cancelled ∧ f'.bytes.length = c)) :
    let f := fetch written isShut (.data bs :: items) (n + 1)
    let f' := fetch written isShut (cancelAt (c + 1) (.data bs :: items)) (n + 1)
    (f.reach ≤ c + 1 → f' = ⟨f.bytes, f.stop, cancelAt (c + 1 - f.bytes.length) f.items⟩) ∧
      (c + 1 < f.reach → f'.stop = .cancelled ∧ f'.bytes.length = c + 1) := by
  dsimp only
  obtain ⟨m, hm⟩ : ∃ m, n + 1 - bs.length = m + 1 := ⟨n - bs.length, by omega⟩
  rw [fetch, if_neg hn, hm, Fetched.reach_cons]
  by_cases hc : c + 1 ≤ bs.length
  · have hlength : (bs.take (c + 1)).length = c + 1 := List.length_take_of_le hc
    have hpos := reach_fetch_pos written isShut items m
    obtain ⟨k, hk⟩ : ∃ k, n + 1 - (c + 1) = k + 1 := ⟨n - (c + 1), by omega⟩
    rw [cancelAt_within (by omega) hc, fetch, hlength, if_neg (by omega), hk]
    refine ⟨fun hreach => absurd hreach (by omega), fun _ => ⟨rfl, ?_⟩⟩
    rw [Fetched.cons, fetch, List.append_nil, hlength]
  · obtain ⟨hfront, hbehind⟩ := ih (c + 1 - bs.length) (m + 1)
    rw [cancelAt_beyond (by omega), fetch, if_neg hn, hm]
    constructor
    · intro hreach
      rw [hfront (by omega)]
      simp only [Fetched.cons, List.length_append, Nat.sub_sub]
    · intro hreach
      obtain ⟨hstop, hlength⟩ := hbehind (by omega)
      refine ⟨hstop, ?_⟩
      rw [Fetched.cons, List.length_append]
      omega

/-- What a wait reads of the stream that calls to give up behind `c` bytes, beside what it reads
without that. -/
theorem fetch_cancelAt (written : Nat) (isShut : Bool) (c : Nat) (items : List ReadItem)
    (n : Nat) :
    let f := fetch written isShut items n
    let f' := fetch written isShut (cancelAt c items) n
    (f.reach ≤ c → f' = ⟨f.bytes, f.stop, cancelAt (c - f.bytes.length) f.items⟩) ∧
      (c < f.reach → f'.stop = .cancelled ∧ f'.bytes.length = c) := by
  induction items generalizing c n with
  | nil =>
    cases n with
    | zero => simp [fetch, Fetched.reach]
    | succ n => cases c <;> simp [fetch, cancelAt, Fetched.reach]
  | cons item items ih =>
    cases n with
    | zero => simp [fetch, Fetched.reach]
    | succ n =>
    cases c with
    | zero =>
      rw [cancelAt_zero]
      have hpos := reach_fetch_pos written isShut (item :: items) n
      exact ⟨fun h => absurd h (by omega), fun _ => ⟨rfl, rfl⟩⟩
    | succ c =>
    cases item with
    | data bs =>
      by_cases hn : n + 1 ≤ bs.length
      · exact fetch_cancelAt_part hn c items
      · exact fetch_cancelAt_whole hn ih
    | fault f =>
      rw [cancelAt]
      · cases f with
        | interrupted => exact ih (c + 1) (n + 1)
        | _ => simp [fetch, Fetched.reach]
      · rintro bs ⟨⟩
    | wait k =>
      by_cases hk : k ≤ written
      · simpa [fetch, cancelAt, hk] using ih (c + 1) (n + 1)
      · simp [fetch, cancelAt, hk, Fetched.reach]
    | waitShutdown =>
      cases isShut with
      | true => exact ih (c + 1) (n + 1)
      | false => simp [fetch, cancelAt, Fetched.reach]
    | _ => simp [fetch, cancelAt, Fetched.reach]

end

/-! ## Operations on the stream that calls to give up -/

section

variable (c : Nat) (s : Script)

theorem take_cancelledAt (m : Bytes) : (s.cancelledAt c).take m = (s.take m).cancelledAt c := by
  unfold take
  split <;> rfl

theorem acceptAll_cancelledAt (fuel : Nat) (m : Bytes) :
    Carrier.acceptAll 0 fuel m (s.cancelledAt c) =
      ((Carrier.acceptAll 0 fuel m s).1, (Carrier.acceptAll 0 fuel m s).2.cancelledAt c) := by
  have h : (s.cancelledAt c).AsRoomy s := ⟨rfl, rfl, rfl⟩
  obtain ⟨o, n, hs, hs'⟩ := acceptAll_prefix h fuel (m := m) rfl
  rw [hs, hs', take_cancelledAt]

theorem flush_cancelledAt :
    Carrier.flush 0 (s.cancelledAt c) =
      ((Carrier.flush 0 s).1, (Carrier.flush 0 s).2.cancelledAt c) := by
  show (s.cancelledAt c).flush = ((s.flush).1, (s.flush).2.cancelledAt c)
  simp only [flush, cancelledAt]
  cases s.flushFault with
  | none => rfl
  | some limit =>
    dsimp only
    split <;> simp_all

/-- A wait that stays in front of the place. -/
theorem receive_cancelledAt {n : Nat} (h : (s.fetched n).reach ≤ c) (atEnd : Fault) :
    Carrier.receive 0 n atEnd (s.cancelledAt c) =
      ((Carrier.receive 0 n atEnd s).1,
        (Carrier.receive 0 n atEnd s).2.cancelledAt (c - (s.fetched n).bytes.length)) := by
  have hfetch : (s.cancelledAt c).fetched n = ⟨(s.fetched n).bytes, (s.fetched n).stop,
      cancelAt (c - (s.fetched n).bytes.length) (s.fetched n).items⟩ :=
    (fetch_cancelAt s.accepted s.isShut c s.items n).1 h
  have hadvance : (s.cancelledAt c).advance ((s.cancelledAt c).fetched n) =
      (s.advance (s.fetched n)).cancelledAt (c - (s.fetched n).bytes.length) := by
    rw [hfetch]
    rfl
  have hstop' : ((s.cancelledAt c).fetched n).stop = (s.fetched n).stop := by rw [hfetch]
  cases hstop : (s.fetched n).stop with
  | complete =>
    have hlength : (s.fetched n).bytes.length = n := length_fetch _ _ _ _ hstop
    have hbytes : (s.fetched n).bytes =
        (⟨(s.fetched n).bytes.toArray, hlength⟩ : Vector UInt8 n).toList := rfl
    have hbytes' : ((s.cancelledAt c).fetched n).bytes = (s.fetched n).bytes := by rw [hfetch]
    rw [receive_of_complete (hstop'.trans hstop) (hbytes'.trans hbytes),
      receive_of_complete hstop hbytes, hadvance]
  | ended => rw [receive_of_ended (hstop'.trans hstop), receive_of_ended hstop, hadvance]
  | fault f => rw [receive_of_fault (hstop'.trans hstop), receive_of_fault hstop, hadvance]
  | stalled => rw [receive_of_stalled (hstop'.trans hstop), receive_of_stalled hstop, hadvance]
  | cancelled =>
    rw [receive_of_cancelled (hstop'.trans hstop), receive_of_cancelled hstop, hadvance]

/-- A wait that goes on behind it. -/
theorem receive_cancelledAt_behind {n : Nat} (h : c < (s.fetched n).reach) (atEnd : Fault) :
    ∃ f, f.stop = .cancelled ∧ f.bytes.length = c ∧
      Carrier.receive 0 n atEnd (s.cancelledAt c) = (.stalled, (s.cancelledAt c).advance f) := by
  obtain ⟨hstop, hlength⟩ := (fetch_cancelAt s.accepted s.isShut c s.items n).2 h
  exact ⟨_, hstop, hlength, receive_of_cancelled (s := s.cancelledAt c) hstop atEnd⟩

end

end Script

/-! ## Recorded runs -/

namespace Recorder

open Script

/-- What the first read of a wait leaves: a rest of the wait, the same wait again, or nothing. -/
theorem collect_snd_cases (atEnd : Fault) (fuel n : Nat) (r : Recorder) :
    (∃ f : Fetched, f.bytes ≠ [] ∧
      (n + 1 - f.bytes.length = 0 ∨ f.items.length < r.script.items.length) ∧
      r.script.fetched (n + 1) =
        ((r.script.advance f).fetched (n + 1 - f.bytes.length)).cons f.bytes ∧
      (r.collect 0 atEnd (fuel + 1) (n + 1)).2 =
        (collect 0 atEnd fuel (n + 1 - f.bytes.length)
          ⟨r.script.advance f, r.events ++ [.read (.ok f.bytes)]⟩).2) ∨
    (∃ f : Fetched, f.items.length < r.script.items.length ∧
      r.script.fetched (n + 1) = (r.script.advance f).fetched (n + 1) ∧
      (r.collect 0 atEnd (fuel + 1) (n + 1)).2 = (collect 0 atEnd fuel (n + 1)
        ⟨r.script.advance f, r.events ++ [.read (.error .interrupted)]⟩).2) ∨
    ∃ o s', (Event.read o).got = [] ∧ (r.script.fetched (n + 1)).bytes = [] ∧
      (r.script.fetched (n + 1)).stop ≠ .complete ∧
      (r.collect 0 atEnd (fuel + 1) (n + 1)).2 = ⟨s', r.events ++ [.read o]⟩ := by
  have hread : r.note .read (Carrier.read 0 (n + 1)) =
      ((r.script.read (n + 1)).1, ⟨(r.script.read (n + 1)).2,
        r.events ++ [.read (r.script.read (n + 1)).1]⟩) := rfl
  have hstep := @fetch_eq_fetchSome r.script.accepted r.script.isShut r.script.items n
  rw [collect, hread, fetched, hstep, Script.read]
  have hsome := @fetchSome_of_complete r.script.accepted r.script.isShut r.script.items n
  have hnone := @fetchSome_bytes r.script.accepted r.script.isShut r.script.items (n + 1)
  have hfault := @fetchSome_of_fault r.script.accepted r.script.isShut r.script.items (n + 1)
  generalize fetchSome r.script.accepted r.script.isShut (n + 1) r.script.items = f at *
  cases hstop : f.stop with
  | complete =>
    obtain ⟨hne, hlen⟩ := hsome hstop
    refine .inl ⟨f, hne, hlen.imp_left (Nat.sub_eq_zero_of_le ·), ?_⟩
    simp only [hstop, if_neg hne]
    exact ⟨rfl, trivial⟩
  | fault e =>
    by_cases he : e = .interrupted
    · subst he
      refine .inr (.inl ⟨f, hfault hstop, ?_⟩)
      simp only [hstop, if_true]
      exact ⟨rfl, trivial⟩
    · refine .inr (.inr ⟨.error e, r.script.advance f, rfl, ?_⟩)
      simp only [hstop, if_neg he]
      cases e with
      | interrupted => exact absurd rfl he
      | _ => exact ⟨hnone (by simp [hstop]), by simp [hstop], trivial⟩
  | ended =>
    have hnil := hnone (by simp [hstop])
    refine .inr (.inr ⟨.ok [], r.script.advance f, rfl, ?_⟩)
    simp only [hstop, hnil, if_true]
    exact ⟨trivial, by rintro ⟨⟩, trivial⟩
  | stalled =>
    refine .inr (.inr ⟨.stalled, r.script.advance f, rfl, ?_⟩)
    simp only [hstop]
    exact ⟨hnone (by simp [hstop]), by rintro ⟨⟩, trivial⟩
  | cancelled =>
    refine .inr (.inr ⟨.stalled, r.script.advance f, rfl, ?_⟩)
    simp only [hstop]
    exact ⟨hnone (by simp [hstop]), by rintro ⟨⟩, trivial⟩

/-- The single reads of a wait look as far as the wait. -/
theorem collect_readsBehind (atEnd : Fault) {fuel n : Nat} (r : Recorder)
    (hfuel : n = 0 ∨ r.script.items.length < fuel) :
    ∃ events, (r.collect 0 atEnd fuel n).2.events = r.events ++ events ∧
      (events.flatMap Event.got).length = (r.script.fetched n).bytes.length ∧
      ∀ c, ReadsBehind c events ↔ c < (r.script.fetched n).reach := by
  induction fuel generalizing r n with
  | zero =>
    obtain rfl : n = 0 := by omega
    refine ⟨[], by simp [collect], by simp [fetched, fetch], fun c => ?_⟩
    simp [not_readsBehind_nil, fetched, fetch, Fetched.reach]
  | succ fuel ih =>
    cases n with
    | zero =>
      refine ⟨[], by simp [collect], by simp [fetched, fetch], fun c => ?_⟩
      simp [not_readsBehind_nil, fetched, fetch, Fetched.reach]
    | succ n =>
      rcases r.collect_snd_cases atEnd fuel n with
        ⟨f, hne, hlen, hfetched, hcollect⟩ | ⟨f, hlen, hfetched, hcollect⟩ |
          ⟨o, s', hgot, hnil, hstop, hcollect⟩
      · obtain ⟨events, hrecord, hlength, hreach⟩ :=
          ih ⟨r.script.advance f, r.events ++ [.read (.ok f.bytes)]⟩ (n := n + 1 - f.bytes.length)
            (by dsimp [advance]; omega)
        have hpos := List.length_pos_iff.mpr hne
        dsimp only at hlength hreach
        rw [hcollect, hfetched]
        refine ⟨.read (.ok f.bytes) :: events, ?_, ?_, fun c => ?_⟩
        · rw [hrecord, List.append_assoc]
          rfl
        · rw [List.flatMap_cons, List.length_append, hlength, Fetched.cons, List.length_append]
          rfl
        · rw [readsBehind_cons, hreach, Fetched.reach_cons]
          show c < max 1 f.bytes.length ∨ c - f.bytes.length < _ ↔ c < f.bytes.length + _
          omega
      · obtain ⟨events, hrecord, hlength, hreach⟩ :=
          ih ⟨r.script.advance f, r.events ++ [.read (.error .interrupted)]⟩ (n := n + 1)
            (by dsimp [advance]; omega)
        have hpos : 0 < ((r.script.advance f).fetched (n + 1)).reach := reach_fetch_pos _ _ _ n
        dsimp only at hlength hreach
        rw [hcollect, hfetched]
        refine ⟨.read (.error .interrupted) :: events, ?_, ?_, fun c => ?_⟩
        · rw [hrecord, List.append_assoc]
          rfl
        · rw [List.flatMap_cons, List.length_append, hlength]
          exact Nat.zero_add _
        · rw [readsBehind_cons, hreach]
          show c < 1 ∨ c - 0 < _ ↔ _
          omega
      · rw [hcollect]
        refine ⟨[.read o], rfl, by simp [hgot, hnil], fun c => ?_⟩
        rw [readsBehind_cons, Event.reach, hgot, Fetched.reach_of_ne hstop, hnil]
        simp [not_readsBehind_nil]

theorem acceptAll_events (r : Recorder) (fuel : Nat) (bs : Bytes) :
    ∃ events, (Carrier.acceptAll 0 fuel bs r).2.events = r.events ++ events ∧
      ∀ e ∈ events, e.reach = 0 := by
  induction fuel generalizing r bs with
  | zero => exact ⟨[], (List.append_nil _).symm, nofun⟩
  | succ fuel ih =>
    rw [Carrier.acceptAll]
    split
    · exact ⟨[], (List.append_nil _).symm, nofun⟩
    · have haccept : Carrier.accept 0 bs r =
          ((Carrier.accept 0 bs r.script).1, ⟨(Carrier.accept 0 bs r.script).2,
            r.events ++ [.write bs (Carrier.accept 0 bs r.script).1]⟩) := rfl
      have hwrite (o : Outcome Fault Nat) : ∀ e ∈ [Event.write bs o], e.reach = 0 := by
        simp [Event.reach]
      rw [haccept]
      rcases Carrier.accept 0 bs r.script with ⟨(_ | k) | f | _, s⟩
      · exact ⟨_, rfl, hwrite _⟩
      · obtain ⟨events, hrecord, hreach⟩ := ih ⟨s, r.events ++ [.write bs (.ok (k + 1))]⟩
          (bs.drop (k + 1))
        refine ⟨[.write bs (.ok (k + 1))] ++ events, ?_, ?_⟩
        · rw [← List.append_assoc]
          exact hrecord
        · exact List.forall_mem_append.mpr ⟨hwrite _, hreach⟩
      · exact ⟨_, rfl, hwrite _⟩
      · exact ⟨_, rfl, hwrite _⟩

theorem receive_readsBehind (r : Recorder) (n : Nat) (atEnd : Fault) :
    ∃ events, (Carrier.receive 0 n atEnd r).2.events = r.events ++ events ∧
      (events.flatMap Event.got).length = (r.script.fetched n).bytes.length ∧
      ∀ c, ReadsBehind c events ↔ c < (r.script.fetched n).reach := by
  have hevents : (Carrier.receive 0 n atEnd r).2.events =
      (r.collect 0 atEnd (r.script.items.length + 1) n).2.events := by
    show (r.receive 0 n atEnd).2.events = _
    rw [Recorder.receive]
    rcases r.collect 0 atEnd (r.script.items.length + 1) n with ⟨got | f | _, r'⟩
    · dsimp only
      split <;> rfl
    · rfl
    · rfl
  rw [hevents]
  exact collect_readsBehind atEnd r (.inr (Nat.lt_add_one _))

/-- Writing on a stream and on its recorder. -/
theorem acceptAll_eq (r : Recorder) (fuel : Nat) (m : Bytes) :
    ∃ o n es, Carrier.acceptAll 0 fuel m r.script = (o, r.script.take (m.take n)) ∧
      Carrier.acceptAll 0 fuel m r = (o, ⟨r.script.take (m.take n), r.events ++ es⟩) ∧
      ∀ e ∈ es, e.reach = 0 := by
  obtain ⟨es, hes, hreach⟩ := r.acceptAll_events fuel m
  obtain ⟨ho, hscript⟩ := acceptAll_recorder r fuel m
  obtain ⟨o, n, hwrite, -⟩ :=
    acceptAll_prefix (s := r.script) (m := m) ⟨rfl, rfl, rfl⟩ fuel rfl
  rw [hwrite] at ho hscript
  exact ⟨o, n, es, hwrite, Prod.ext ho (congrArg₂ Recorder.mk hscript hes), hreach⟩

/-- Waiting on a stream and on its recorder. -/
theorem receive_eq (r : Recorder) (n : Nat) (atEnd : Fault) :
    ∃ o es, Carrier.receive 0 n atEnd r.script = (o, r.script.advance (r.script.fetched n)) ∧
      Carrier.receive 0 n atEnd r =
        (o, ⟨r.script.advance (r.script.fetched n), r.events ++ es⟩) ∧
      (es.flatMap Event.got).length = (r.script.fetched n).bytes.length ∧
      ∀ c, ReadsBehind c es ↔ c < (r.script.fetched n).reach := by
  obtain ⟨es, hes, hlength, hreach⟩ := r.receive_readsBehind n atEnd
  obtain ⟨ho, hscript⟩ := r.receive_recorder n atEnd
  rw [receive_snd] at hscript
  exact ⟨_, es, Prod.ext rfl (receive_snd r.script n atEnd),
    Prod.ext ho (congrArg₂ Recorder.mk hscript hes), hlength, hreach⟩

end Recorder

end ProxyTunnel
