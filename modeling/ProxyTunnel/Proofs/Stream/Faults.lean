import ProxyTunnel.Proofs.Stream.Operations

/-!
# Faults put into a script

What a single operation does on a stream to which one fault was added. The stream behaves as before
until the fault is met.

* `Breaks`: scripts that are the same up to some number of bytes, where one of them breaks;
  `Breaks.fetch` compares what reading them gives;
* `write_limited`: writing to a stream that stops to take bytes at some point.
-/

namespace ProxyTunnel

/-- How the reading side of a stream breaks. -/
inductive Break where
  /-- The stream ends. -/
  | ended
  /-- A read fails. -/
  | fault (f : Fault)
  deriving DecidableEq, Repr

namespace Break

/-- The item that makes a stream break. -/
def item : Break → ReadItem
  | .ended => .ended
  | .fault f => .fault f

/-- Why reading stops at the break. -/
def stop : Break → Script.Stop
  | .ended => .ended
  | .fault f => .fault f

/-- The fault that a wait for a block meets; `atEnd` stands for the end of the stream. -/
def cause (atEnd : Fault) : Break → Fault
  | .ended => atEnd
  | .fault f => f

end Break

namespace Script

/-! ## Reading up to a break -/

/-- The items on the right are those on the left up to `n` bytes; there they break. -/
inductive Breaks (x : Break) : (n : Nat) → List ReadItem → List ReadItem → Prop where
  | here (items behind : List ReadItem) : Breaks x 0 items (x.item :: behind)
  | within (a b : Bytes) (items behind : List ReadItem) :
    Breaks x a.length (.data (a ++ b) :: items) (.data a :: x.item :: behind)
  | data (bs : Bytes) {n : Nat} {items items' : List ReadItem} :
    Breaks x n items items' → Breaks x (bs.length + n) (.data bs :: items) (.data bs :: items')
  | skip {item : ReadItem} (h : ∀ bs, item ≠ .data bs) {n : Nat} {items items' : List ReadItem} :
    Breaks x n items items' → Breaks x n (item :: items) (item :: items')

section

variable {x : Break} {k : Nat} {items items' : List ReadItem}

/-- What is no data is passed over by every wait, or by none. -/
theorem skips_or_stops {item : ReadItem} (h : ∀ bs, item ≠ .data bs) (written : Nat)
    (isShut : Bool) :
    (∀ items n, fetch written isShut (item :: items) (n + 1) = fetch written isShut items (n + 1)) ∨
      ∀ items n, (fetch written isShut (item :: items) (n + 1)).stop ≠ .complete := by
  cases item with
  | data bs => exact absurd rfl (h bs)
  | fault f =>
    cases f with
    | interrupted => exact .inl fun _ _ => rfl
    | _ => exact .inr nofun
  | wait m =>
    by_cases hm : m ≤ written
    · exact .inl fun _ _ => by rw [fetch, if_pos hm]
    · refine .inr fun _ _ => ?_
      rw [fetch, if_neg hm]
      exact nofun
  | waitShutdown =>
    cases isShut with
    | false => exact .inr nofun
    | true => exact .inl fun _ _ => rfl
  | _ => exact .inr nofun

theorem fetch_break (hx : x ≠ .fault .interrupted) (written : Nat) (isShut : Bool)
    (behind : List ReadItem) (n : Nat) :
    (fetch written isShut (x.item :: behind) (n + 1)).bytes = [] ∧
      (fetch written isShut (x.item :: behind) (n + 1)).stop = x.stop := by
  cases x with
  | ended => exact ⟨rfl, rfl⟩
  | fault f =>
    rw [Break.item]
    cases f with
    | interrupted => exact absurd rfl hx
    | _ => exact ⟨rfl, rfl⟩

theorem Breaks.putBack (h : Breaks x k items items') (bs : Bytes) :
    Breaks x (bs.length + k) (putBack bs items) (putBack bs items') := by
  unfold Script.putBack
  split
  · rename_i hb
    simpa [hb] using h
  · exact .data bs h

theorem breaks_putBack_within (x : Break) (a b : Bytes) (items behind : List ReadItem) :
    Breaks x a.length (Script.putBack (a ++ b) items) (Script.putBack a (x.item :: behind)) := by
  by_cases ha : a = []
  · subst ha
    exact .here _ behind
  · have hab : a ++ b ≠ [] := by simp [ha]
    rw [Script.putBack, Script.putBack, if_neg ha, if_neg hab]
    exact .within a b items behind

/-- Reading that stays in front of the break is not touched by it. Reading that would go beyond it
gets all bytes in front of it and then stops. -/
theorem Breaks.fetch (h : Breaks x k items items') (hx : x ≠ .fault .interrupted) {written : Nat}
    {isShut : Bool} {n : Nat} (hc : (fetch written isShut items n).stop = .complete) :
    (n ≤ k →
      (Script.fetch written isShut items' n).bytes = (Script.fetch written isShut items n).bytes ∧
      (Script.fetch written isShut items' n).stop = .complete ∧
      Breaks x (k - n) (Script.fetch written isShut items n).items
        (Script.fetch written isShut items' n).items) ∧
    (k < n → (Script.fetch written isShut items' n).bytes.length = k ∧
      (Script.fetch written isShut items' n).stop = x.stop) := by
  cases n with
  | zero =>
    refine ⟨fun _ => ?_, by omega⟩
    simpa [Script.fetch] using h
  | succ n =>
  induction h generalizing n with
  | here items behind =>
    obtain ⟨h₁, h₂⟩ := fetch_break hx written isShut behind n
    exact ⟨by omega, fun _ => ⟨by rw [h₁]; rfl, h₂⟩⟩
  | within a b items behind =>
    constructor
    · intro hn
      have hlen : n + 1 ≤ (a ++ b).length := by
        rw [List.length_append]
        omega
      have hk : a.length - (n + 1) = (a.drop (n + 1)).length := by rw [List.length_drop]
      rw [Script.fetch, Script.fetch, if_pos hn, if_pos hlen, hk,
        List.take_append_of_le_length hn, List.drop_append_of_le_length hn]
      exact ⟨rfl, rfl, breaks_putBack_within x _ b items behind⟩
    · intro hn
      obtain ⟨m, hm⟩ : ∃ m, n + 1 - a.length = m + 1 := ⟨n - a.length, by omega⟩
      obtain ⟨h₁, h₂⟩ := fetch_break hx written isShut behind m
      rw [Script.fetch, if_neg (by omega), hm]
      refine ⟨?_, h₂⟩
      show (a ++ _).length = _
      rw [h₁, List.append_nil]
  | @data bs k items items' h ih =>
    rw [Script.fetch, Script.fetch]
    rw [Script.fetch] at hc
    by_cases hn : n + 1 ≤ bs.length
    · rw [if_pos hn, if_pos hn]
      refine ⟨fun _ => ⟨rfl, rfl, ?_⟩, by omega⟩
      have hk : bs.length + k - (n + 1) = (bs.drop (n + 1)).length + k := by
        rw [List.length_drop]
        omega
      rw [hk]
      exact h.putBack _
    · rw [if_neg hn] at hc
      rw [if_neg hn, if_neg hn]
      obtain ⟨m, hm⟩ : ∃ m, n + 1 - bs.length = m + 1 := ⟨n - bs.length, by omega⟩
      rw [hm] at hc ⊢
      obtain ⟨h₁, h₂⟩ := ih m hc
      constructor
      · intro hk
        obtain ⟨h₃, h₄, h₅⟩ := h₁ (by omega)
        refine ⟨congrArg (bs ++ ·) h₃, h₄, ?_⟩
        have hm' : bs.length + k - (n + 1) = k - (m + 1) := by omega
        rw [hm']
        exact h₅
      · intro hk
        obtain ⟨h₃, h₄⟩ := h₂ (by omega)
        refine ⟨?_, h₄⟩
        show (bs ++ _).length = _
        rw [List.length_append, h₃]
  | @skip item hi k items items' h ih =>
    rcases skips_or_stops hi written isShut with hskip | hstop
    · rw [hskip, hskip]
      rw [hskip] at hc
      exact ih n hc
    · exact absurd hc (hstop _ _)

/-- A stream can break anywhere among its bytes. -/
theorem exists_breaks (x : Break) (items : List ReadItem) {n : Nat}
    (h : n ≤ ({ items } : Script).unread.length) : ∃ items', Breaks x n items items' := by
  induction items generalizing n with
  | nil =>
    obtain rfl : n = 0 := by simpa [unread] using h
    exact ⟨_, .here [] []⟩
  | cons item items ih =>
    cases item with
    | data bs =>
      have hlen : ({ items := .data bs :: items } : Script).unread.length =
          bs.length + ({ items } : Script).unread.length := by simp [unread]
      by_cases hn : n ≤ bs.length
      · have hb := Breaks.within (x := x) (bs.take n) (bs.drop n) items items
        rw [List.take_append_drop, List.length_take_of_le hn] at hb
        exact ⟨_, hb⟩
      · obtain ⟨items', hb⟩ := ih (n := n - bs.length) (by omega)
        have hsum : bs.length + (n - bs.length) = n := by omega
        have hb' := Breaks.data bs hb
        rw [hsum] at hb'
        exact ⟨_, hb'⟩
    | _ =>
      obtain ⟨items', hb⟩ := ih h
      refine ⟨_, .skip ?_ hb⟩
      exact nofun

end

/-! ## Streams without faults -/

/-- Nothing about the stream fails. Interruptions of reads are no faults. -/
structure FaultFree (s : Script) : Prop where
  willing : s.Willing
  items : ∀ f, ReadItem.fault f ∈ s.items → f = .interrupted

theorem mem_of_mem_fetch {written n : Nat} {isShut : Bool} {items : List ReadItem} {f : Fault}
    (h : ReadItem.fault f ∈ (fetch written isShut items n).items) : ReadItem.fault f ∈ items := by
  fun_induction fetch written isShut items n <;> simp_all [Fetched.cons, putBack]
  split at h <;> simp_all

theorem fault_mem_of_fetch {written n : Nat} {isShut : Bool} {items : List ReadItem} {f : Fault}
    (h : (fetch written isShut items n).stop = .fault f) :
    ReadItem.fault f ∈ items ∧ f ≠ .interrupted := by
  fun_induction fetch written isShut items n <;> simp_all [Fetched.cons]

section

variable {s : Script}

theorem FaultFree.take (h : s.FaultFree) (m : Bytes) : (s.take m).FaultFree :=
  ⟨h.willing.take m, by rw [items_take]; exact h.items⟩

theorem FaultFree.flushed (h : s.FaultFree) : s.flushed.FaultFree := ⟨h.willing.flushed, h.items⟩

theorem FaultFree.fetched (h : s.FaultFree) (n : Nat) : (s.advance (s.fetched n)).FaultFree :=
  ⟨h.willing.advance _, fun f hf => h.items f (mem_of_mem_fetch hf)⟩

/-- A wait for a block gets it, meets the end of the stream, or stands still. -/
theorem FaultFree.receive_cases (h : s.FaultFree) (n : Nat) (atEnd : Fault) :
    (∃ v : Vector UInt8 n, (s.fetched n).stop = .complete ∧ (s.fetched n).bytes = v.toList) ∨
      (Carrier.receive 0 n atEnd s).1 = .error atEnd ∨
      (Carrier.receive 0 n atEnd s).1 = .stalled := by
  cases hs : (s.fetched n).stop with
  | complete =>
    exact .inl ⟨⟨(s.fetched n).bytes.toArray, length_fetch _ _ _ _ hs⟩, rfl, rfl⟩
  | ended => exact .inr (.inl (by rw [receive_of_ended hs]))
  | fault f =>
    obtain ⟨hf, hne⟩ := fault_mem_of_fetch hs
    exact absurd (h.items f hf) hne
  | stalled => exact .inr (.inr (by rw [receive_of_stalled hs]))
  | cancelled => exact .inr (.inr (by rw [receive_of_cancelled hs]))

end

/-! ## Faults of single sides -/

section

variable (s : Script)

/-- The stream with other things to read. -/
def reading (items : List ReadItem) : Script := { s with items }

/-- The stream if it takes so many bytes in all; then writes fail, or take nothing. -/
def limited (limit : Nat) (fault : Option Fault) : Script :=
  { s with writeLimit := some (limit, fault) }

/-- The stream if one of its flushes fails. -/
def jammed (nth : Nat) (fault : Fault) : Script := { s with flushFault := some (nth, fault) }

theorem take_reading (items : List ReadItem) (m : Bytes) :
    (s.reading items).take m = (s.take m).reading items := by
  unfold take
  split <;> rfl

theorem take_limited (limit : Nat) (fault : Option Fault) (m : Bytes) :
    (s.limited limit fault).take m = (s.take m).limited limit fault := by
  unfold take
  split <;> rfl

theorem take_jammed (nth : Nat) (fault : Fault) (m : Bytes) :
    (s.jammed nth fault).take m = (s.take m).jammed nth fault := by
  unfold take
  split <;> rfl

end

/-! ## Waiting on a stream that breaks -/

theorem advance_reading {s : Script} {items : List ReadItem} {f g : Fetched}
    (hbytes : f.bytes = g.bytes) (hstop : f.stop = g.stop) :
    (s.reading items).advance f = (s.advance g).reading f.items := by
  obtain ⟨bytes, stop, left⟩ := f
  subst hbytes
  subst hstop
  rfl

section

variable {s : Script} {x : Break} {k n : Nat} {items : List ReadItem}

/-- A block in front of the break is delivered as before. -/
theorem Breaks.receive_of_le (hb : Breaks x k s.items items) (hx : x ≠ .fault .interrupted)
    {v : Vector UInt8 n} (hstop : (s.fetched n).stop = .complete)
    (hbytes : (s.fetched n).bytes = v.toList) (hk : n ≤ k) (atEnd : Fault) :
    ∃ left, Breaks x (k - n) (s.advance (s.fetched n)).items left ∧
      Carrier.receive 0 n atEnd (s.reading items) =
        (.ok v, (s.advance (s.fetched n)).reading left) := by
  obtain ⟨hbytes', hstop', hleft⟩ := (hb.fetch hx hstop).1 hk
  refine ⟨_, hleft, ?_⟩
  rw [receive_of_complete (s := s.reading items) hstop' (hbytes'.trans hbytes)]
  exact congrArg (Outcome.ok v, ·) (advance_reading hbytes' (hstop'.trans hstop.symm))

/-- Who waits for a block that reaches over the break gets all in front of it and meets it. -/
theorem Breaks.receive_of_lt (hb : Breaks x k s.items items) (hx : x ≠ .fault .interrupted)
    (hstop : (s.fetched n).stop = .complete) (hk : k < n) (atEnd : Fault) :
    ∃ t, Carrier.receive 0 n atEnd (s.reading items) = (.error (x.cause atEnd), t) ∧
      t.consumed = s.consumed + k ∧ t.sent = s.sent ∧ t.pending = s.pending := by
  obtain ⟨hlen, hstop'⟩ := (hb.fetch hx hstop).2 hk
  refine ⟨(s.reading items).advance ((s.reading items).fetched n), ?_,
    congrArg (s.consumed + ·) hlen, rfl, rfl⟩
  cases x with
  | ended => exact receive_of_ended (s := s.reading items) hstop' atEnd
  | fault f => exact receive_of_fault (s := s.reading items) hstop' atEnd

end

/-! ## Limits on what is taken -/

section

variable {s : Script} {limit : Nat} {m : Bytes} (fault : Option Fault)

/-- A stream that has taken all that it takes fails a write, or takes nothing of it. -/
theorem accept_at_limit (h : s.accepted = limit) (hm : m ≠ []) :
    Carrier.accept 0 m (s.limited limit fault) =
      ((match fault with | some f => .error f | none => .ok 0),
        s.limited limit fault) := by
  show Script.accept m _ = _
  cases fault with
  | some f => simp [accept, limited, hm, h]
  | none => simp [accept, limited, room, h, take_nil]

/-- Below the limit, a write takes something and does not go beyond it. -/
theorem accept_below_limit (hs : s.Willing) (h : s.accepted < limit) (hm : m ≠ []) :
    ∃ k, 0 < k ∧ k ≤ m.length ∧ s.accepted + k ≤ limit ∧
      Carrier.accept 0 m (s.limited limit fault) =
        (.ok k, (s.take (m.take k)).limited limit fault) := by
  have hpos := room_pos hs.takes hs.unlimited (List.length_pos_iff.mpr hm)
  have hroom : (s.limited limit fault).room m.length =
      min (s.room m.length) (limit - s.accepted) := by
    simp [room, limited, hs.unlimited]
  refine ⟨min (s.room m.length) (limit - s.accepted), by omega, by omega, by omega, ?_⟩
  show Script.accept m _ = _
  rw [accept]
  cases fault with
  | some f =>
    rw [hroom, take_limited]
    exact if_neg fun hfull => Nat.not_le.mpr h hfull.2
  | none =>
    rw [hroom, take_limited]
    rfl

theorem acceptAll_limited (hs : s.Willing) (h : s.accepted ≤ limit) {fuel : Nat}
    (hm : m.length ≤ fuel) :
    Carrier.acceptAll 0 fuel m (s.limited limit fault) =
      if s.accepted + m.length ≤ limit then
        (.ok (), (s.take m).limited limit fault)
      else (.error (fault.getD .writeZero),
        (s.take (m.take (limit - s.accepted))).limited limit fault) := by
  induction fuel generalizing s m with
  | zero =>
    obtain rfl : m = [] := List.eq_nil_of_length_eq_zero (by omega)
    exact (if_pos h).symm
  | succ fuel ih =>
    by_cases h₀ : m = []
    · subst h₀
      exact (if_pos h).symm
    have hlen : 0 < m.length := List.length_pos_iff.mpr h₀
    rw [Carrier.acceptAll, if_neg h₀]
    by_cases hfull : s.accepted = limit
    · have hnil : m.take (limit - s.accepted) = [] := by simp [hfull]
      rw [accept_at_limit fault hfull h₀, if_neg (by omega), hnil, take_nil]
      cases fault <;> rfl
    · obtain ⟨k, hpos, hk, hlim, haccept⟩ :=
        accept_below_limit fault hs (Nat.lt_of_le_of_ne h hfull) h₀
      obtain ⟨k, rfl⟩ : ∃ j, k = j + 1 := ⟨k - 1, by omega⟩
      have htaken : (s.take (m.take (k + 1))).accepted = s.accepted + (k + 1) := by
        rw [accepted_take, List.length_take_of_le hk]
      have hcut : m.take (k + 1) ++ (m.drop (k + 1)).take (limit - (s.accepted + (k + 1))) =
          m.take (limit - s.accepted) := by
        rw [← List.take_add]
        congr 1
        omega
      rw [haccept]
      show Carrier.acceptAll 0 fuel (m.drop (k + 1)) _ = _
      rw [ih (hs.take _) (by omega) (by rw [List.length_drop]; omega), htaken, List.length_drop,
        take_take, take_take, List.take_append_drop, hcut]
      by_cases hfit : s.accepted + m.length ≤ limit
      · rw [if_pos hfit, if_pos (by omega)]
      · rw [if_neg hfit, if_neg (by omega)]

/-- A message is taken as a whole, or up to the limit. -/
theorem write_limited (hs : s.Willing) (h : s.accepted ≤ limit) :
    Carrier.write 0 m (s.limited limit fault) =
      if s.accepted + m.length ≤ limit then
        (.ok (), (s.take m).limited limit fault)
      else (.error (fault.getD .writeZero),
        (s.take (m.take (limit - s.accepted))).limited limit fault) :=
  acceptAll_limited fault hs h (Nat.le_refl _)

end

/-! ## Flushes that fail -/

theorem flush_jammed (s : Script) (nth : Nat) (f : Fault) :
    Carrier.flush 0 (s.jammed nth f) =
      if nth = s.flushes + 1 then
        (.error f, ({ s with flushes := s.flushes + 1 } : Script).jammed nth f)
      else (.ok (), s.flushed.jammed nth f) := rfl

end Script

end ProxyTunnel
