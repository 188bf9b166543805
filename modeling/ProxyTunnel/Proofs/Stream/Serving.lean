import ProxyTunnel.Proofs.Stream.Hearing
import ProxyTunnel.Proofs.Stream.Saying
import ProxyTunnel.Proofs.Stream.Operations

/-!
# Streams that serve bytes in time

Bytes reach a reader in pieces, with interruptions between them, and may be held back until enough
has been written. What a conversation makes of the bytes does not depend on that as long as none of
them is held back for more than the conversation has written by then.

* `Serves`: such items, and what comes behind the last byte (`Tail`); `serves_data` and
  `serves_heldBack` are the two extremes;
* `course`: what comes of a conversation with one who says some bytes, without any stream;
* `run_eq_course`: every stream that serves the bytes in time gives just that, and so does every
  stream that says them and ends (`run_eq_course_of_says`);
* `course_behind`: what stands behind the bytes that were needed makes no difference.
-/

namespace ProxyTunnel

/-- What comes behind the last byte of a stream. -/
inductive Tail where
  /-- The end of the stream. -/
  | ended
  /-- Nothing, ever. -/
  | silent
  deriving DecidableEq, Repr

/-- What becomes of who meets the tail and would report its end as `e`. -/
def Tail.outcome {ε α : Type} : Tail → (e : ε) → Outcome ε α
  | .ended, e => .error e
  | .silent, _ => .stalled

namespace Script

/-- Why reading stops at the tail. -/
def Stop.ofTail : Tail → Stop
  | .ended => .ended
  | .silent => .stalled

/-- Items that deliver some bytes in any pieces, and then nothing but the tail. The bytes behind the
first `k` are held back at most until `due k` bytes have been written. -/
inductive Serves (tail : Tail) : (due : Nat → Nat) → List ReadItem → Bytes → Prop where
  | nil {due : Nat → Nat} (h : tail = .ended) : Serves tail due [] []
  | ended {due : Nat → Nat} (h : tail = .ended) (items : List ReadItem) :
    Serves tail due (.ended :: items) []
  | stall {due : Nat → Nat} (h : tail = .silent) (items : List ReadItem) :
    Serves tail due (.stall :: items) []
  | data {due : Nat → Nat} (bs : Bytes) {items : List ReadItem} {rest : Bytes} :
    Serves tail (fun k => due (bs.length + k)) items rest →
    Serves tail due (.data bs :: items) (bs ++ rest)
  | interrupted {due : Nat → Nat} {items : List ReadItem} {S : Bytes} :
    Serves tail due items S → Serves tail due (.fault .interrupted :: items) S
  | wait {due : Nat → Nat} {n : Nat} (h : n ≤ due 0) {items : List ReadItem} {S : Bytes} :
    Serves tail due items S → Serves tail due (.wait n :: items) S

section

variable {tail : Tail} {due due' : Nat → Nat} {items : List ReadItem} {S : Bytes}

/-- What is served in time is served in more time. -/
theorem Serves.mono (h : Serves tail due items S) (hd : ∀ k, due k ≤ due' k) :
    Serves tail due' items S := by
  induction h generalizing due' with
  | nil h => exact .nil h
  | ended h items => exact .ended h items
  | stall h items => exact .stall h items
  | data bs _ ih => exact .data bs (ih fun k => hd _)
  | interrupted _ ih => exact .interrupted (ih hd)
  | wait hn _ ih => exact .wait (Nat.le_trans hn (hd 0)) (ih hd)

theorem Serves.putBack {bs : Bytes} (h : Serves tail (fun k => due (bs.length + k)) items S) :
    Serves tail due (putBack bs items) (bs ++ S) := by
  unfold Script.putBack
  split
  · rename_i hb
    subst hb
    exact h.mono fun k => by simp
  · exact .data bs h

/-- As many bytes as are there can be read at once, if nothing holds them back. -/
theorem Serves.fetch_of_le (h : Serves tail due items S) {written n : Nat} (isShut : Bool)
    (hn : n ≤ S.length) (hw : ∀ k < n, due k ≤ written) :
    (fetch written isShut items n).bytes = S.take n ∧
      (fetch written isShut items n).stop = .complete ∧
      Serves tail (fun k => due (n + k)) (fetch written isShut items n).items (S.drop n) := by
  induction h generalizing n with
  | nil h =>
    obtain rfl : n = 0 := by simpa using hn
    simp [fetch, Serves.nil h]
  | ended h items =>
    obtain rfl : n = 0 := by simpa using hn
    simp [fetch, Serves.ended h items]
  | stall h items =>
    obtain rfl : n = 0 := by simpa using hn
    simp [fetch, Serves.stall h items]
  | @data due bs items rest h ih =>
    cases n with
    | zero => exact ⟨rfl, rfl, (Serves.data bs h).mono fun k => by simp⟩
    | succ n =>
      rw [List.length_append] at hn
      rw [fetch]
      split
      · rename_i hb
        refine ⟨?_, rfl, ?_⟩
        · rw [List.take_append_of_le_length hb]
        · rw [List.drop_append_of_le_length hb]
          refine Serves.putBack (h.mono fun k => Nat.le_of_eq (congrArg due ?_))
          rw [List.length_drop]
          omega
      · obtain ⟨h₁, h₂, h₃⟩ := ih (n := n + 1 - bs.length) (by omega) fun k hk => hw _ (by omega)
        refine ⟨?_, h₂, ?_⟩
        · show bs ++ _ = _
          rw [h₁, List.take_append, List.take_of_length_le (l := bs) (by omega)]
        · rw [List.drop_append, List.drop_of_length_le (by omega)]
          exact h₃.mono fun k => Nat.le_of_eq (congrArg due (by omega))
  | interrupted h ih =>
    cases n with
    | zero => exact ⟨rfl, rfl, (Serves.interrupted h).mono fun k => by simp⟩
    | succ n => exact ih hn hw
  | wait hk h ih =>
    cases n with
    | zero => exact ⟨rfl, rfl, (Serves.wait hk h).mono fun k => by simp⟩
    | succ n =>
      rw [fetch, if_pos (Nat.le_trans hk (hw 0 (by omega)))]
      exact ih hn hw

/-- Who wants more bytes than are there gets what is there, and meets the tail. -/
theorem Serves.fetch_of_lt (h : Serves tail due items S) {written n : Nat} (isShut : Bool)
    (hn : S.length ≤ n) (hw : ∀ k ≤ S.length, due k ≤ written) :
    (fetch written isShut items (n + 1)).bytes = S ∧
      (fetch written isShut items (n + 1)).stop = .ofTail tail ∧
      Serves tail (fun k => due (S.length + k)) (fetch written isShut items (n + 1)).items [] := by
  induction h generalizing n with
  | nil h => subst h; exact ⟨rfl, rfl, .nil rfl⟩
  | ended h items => subst h; exact ⟨rfl, rfl, .ended rfl items⟩
  | stall h items => subst h; exact ⟨rfl, rfl, .stall rfl items⟩
  | @data due bs items rest h ih =>
    rw [List.length_append] at hn hw
    obtain ⟨h₁, h₂, h₃⟩ := ih (n := n - bs.length) (by omega) fun k hk => hw _ (by omega)
    have hm : n + 1 - bs.length = n - bs.length + 1 := by omega
    rw [fetch, if_neg (by omega), hm]
    refine ⟨congrArg (bs ++ ·) h₁, h₂, h₃.mono fun k => Nat.le_of_eq (congrArg due ?_)⟩
    rw [List.length_append, Nat.add_assoc]
  | interrupted h ih => exact ih hn hw
  | wait hk h ih =>
    rw [fetch, if_pos (Nat.le_trans hk (hw 0 (by omega)))]
    exact ih hn hw

/-- Pieces that are there from the start. -/
theorem serves_data (due : Nat → Nat) (pieces : List Bytes) :
    Serves .ended due (pieces.map .data) pieces.flatten := by
  induction pieces generalizing due with
  | nil => exact .nil rfl
  | cons bs pieces ih => exact .data bs (ih _)

/-- Pieces, each held back as long as it may be. -/
def heldBack (due : Nat → Nat) : (pieces : List Bytes) → List ReadItem
  | [] => []
  | bs :: pieces => .wait (due 0) :: .data bs :: heldBack (fun k => due (bs.length + k)) pieces

theorem serves_heldBack (due : Nat → Nat) (pieces : List Bytes) :
    Serves .ended due (heldBack due pieces) pieces.flatten := by
  induction pieces generalizing due with
  | nil => exact .nil rfl
  | cons bs pieces ih => exact .wait (Nat.le_refl _) (.data bs (ih _))

end

theorem ledger_advance (s : Script) (f : Fetched) :
    (s.advance f).ledger = s.ledger.read f.bytes.length := rfl

end Script

namespace Conversation

open Script

variable {ε α : Type}

/-- The block that the first `n` of some bytes make. -/
def head {S : Bytes} {n : Nat} (h : n ≤ S.length) : Vector UInt8 n :=
  ⟨(S.take n).toArray, by simp [h]⟩

/-- What comes of a conversation with one who says `S` and then what the tail says: the outcome, the
ledger, and the bytes not read. -/
def course (tail : Tail) : Conversation ε α → Ledger → Bytes → Outcome ε α × Ledger × Bytes
  | .done a, l, S => (.ok a, l, S)
  | .fail e, l, S => (.error e, l, S)
  | .write m _ next, l, S => course tail next (l.write m) S
  | .flush _ next, l, S => course tail next l.flush S
  | .receive n z f next, l, S =>
    if h : n ≤ S.length then course tail (next (head h)) (l.read n) (S.drop n)
    else (tail.outcome (f z), l.read S.length, [])

/-- How many bytes the conversation writes to one who says `S` and no more. -/
def spoken : Conversation ε α → Bytes → Nat
  | .done _, _ | .fail _, _ => 0
  | .write m _ next, S => m.length + spoken next S
  | .flush _ next, S => spoken next S
  | .receive n _ _ next, S =>
    if h : n ≤ S.length then spoken (next (head h)) (S.drop n) else 0

theorem toList_head {S : Bytes} {n : Nat} (h : n ≤ S.length) : (head h).toList = S.take n := by
  simp [head]

/-- What was read stays read. -/
theorem consumed_le_course (c : Conversation ε α) (tail : Tail) (l : Ledger) (S : Bytes) :
    l.consumed ≤ (c.course tail l S).2.1.consumed := by
  induction c generalizing l S with
  | done a => exact Nat.le_refl _
  | fail e => exact Nat.le_refl _
  | write m f next ih => exact Nat.le_trans (Nat.le_of_eq (l.consumed_write m).symm) (ih _ S)
  | flush f next ih => exact ih l.flush S
  | receive n z f next ih =>
    rw [course]
    split
    · exact Nat.le_trans (Nat.le_add_right _ _) (ih _ (l.read n) _)
    · exact Nat.le_add_right _ _

end Conversation

namespace Script

open Conversation

variable {ε α : Type} {tail : Tail}

/-- The stream takes all that is written, and serves `S` to the conversation: nothing is held back
for more than the conversation writes to one who says what stands before it. -/
structure Answers (c : Conversation ε α) (tail : Tail) (s : Script) (S : Bytes) : Prop where
  willing : s.Willing
  items : Serves tail (fun k => s.accepted + c.spoken (S.take k)) s.items S

/-- The stream takes all that is written, and all of `S` is there to be read. -/
structure Holds (tail : Tail) (s : Script) (S : Bytes) : Prop where
  willing : s.Willing
  items : Serves tail (fun _ => s.accepted) s.items S

section

variable {s : Script} {S m : Bytes} {f : Fault → ε} {next : Conversation ε α}

theorem Answers.take (h : s.Answers (.write m f next) tail S) :
    (s.take m).Answers next tail S := by
  refine ⟨h.willing.take m, ?_⟩
  rw [items_take, accepted_take]
  exact h.items.mono fun k => Nat.le_of_eq (Nat.add_assoc ..).symm

theorem Answers.flushed (h : s.Answers (.flush f next) tail S) : s.flushed.Answers next tail S :=
  ⟨h.willing.flushed, h.items⟩

variable {n : Nat} {z : Fault} {then' : Vector UInt8 n → Conversation ε α}

/-- Who waits for bytes that are served gets them. -/
theorem Answers.receive_of_le (h : s.Answers (.receive n z f then') tail S) (hn : n ≤ S.length) :
    ∃ s', Carrier.receive 0 n z s = (.ok (head hn), s') ∧ s'.ledger = s.ledger.read n ∧
      s'.accepted = s.accepted ∧ s'.Answers (then' (head hn)) tail (S.drop n) := by
  have hw : ∀ k < n, s.accepted + spoken (.receive n z f then') (S.take k) ≤ s.accepted := by
    intro k hk
    rw [spoken, dif_neg (by rw [List.length_take]; omega)]
    exact Nat.le_refl _
  obtain ⟨h₁, h₂, h₃⟩ := h.items.fetch_of_le s.isShut hn hw
  refine ⟨_, receive_of_complete h₂ (h₁.trans (toList_head hn).symm) z, ?_, rfl,
    h.willing.advance _, h₃.mono fun k => ?_⟩
  · have hlen : (s.fetched n).bytes.length = n := by
      show (fetch _ _ _ _).bytes.length = n
      rw [h₁, List.length_take_of_le hn]
    rw [ledger_advance, hlen]
  · have hk : n ≤ (S.take (n + k)).length := by
      rw [List.length_take]
      omega
    have hhead : head hk = head hn := by
      apply Vector.toList_inj.mp
      rw [toList_head, toList_head, List.take_take, Nat.min_eq_left (by omega)]
    rw [spoken, dif_pos hk, hhead, List.drop_take, Nat.add_sub_cancel_left]
    exact Nat.le_refl _

/-- Who waits for more bytes than are served reads them all and meets the tail. -/
theorem Answers.receive_of_lt (h : s.Answers (.receive n z f then') tail S) (hn : S.length < n) :
    ∃ s', Carrier.receive 0 n z s = (tail.outcome z, s') ∧
      s'.ledger = s.ledger.read S.length ∧ s'.accepted = s.accepted ∧ s'.Holds tail [] := by
  obtain ⟨n, rfl⟩ : ∃ k, n = k + 1 := ⟨n - 1, by omega⟩
  have hw : ∀ k, s.accepted + spoken (.receive (n + 1) z f then') (S.take k) ≤ s.accepted := by
    intro k
    rw [spoken, dif_neg (by rw [List.length_take]; omega)]
    exact Nat.le_refl _
  obtain ⟨h₁, h₂, h₃⟩ := h.items.fetch_of_lt s.isShut (n := n) (by omega) fun k _ => hw k
  refine ⟨s.advance (s.fetched (n + 1)), ?_, ?_, rfl,
    h.willing.advance _, h₃.mono fun k => hw _⟩
  · cases tail with
    | ended => exact receive_of_ended h₂ z
    | silent => exact receive_of_stalled h₂ z
  · have hlen : (s.fetched (n + 1)).bytes = S := h₁
    rw [ledger_advance, hlen]

end

end Script

namespace Conversation

open Script

variable {ε α : Type} {tail : Tail}

/-- On every stream that serves the bytes in time, a run is the course of the conversation. -/
theorem run_eq_course {c : Conversation ε α} {s : Script} {S : Bytes}
    (hs : s.Answers c tail S) :
    ∃ s', c.run 0 s = ((c.course tail s.ledger S).1, s') ∧
      s'.ledger = (c.course tail s.ledger S).2.1 ∧
      s'.accepted = s.accepted + c.spoken S ∧
      s'.Holds tail (c.course tail s.ledger S).2.2 := by
  induction c generalizing s S with
  | done a => exact ⟨s, rfl, rfl, rfl, hs.willing, hs.items⟩
  | fail e => exact ⟨s, rfl, rfl, rfl, hs.willing, hs.items⟩
  | write m f next ih =>
    obtain ⟨s', h₁, h₂, h₃, h₄⟩ := ih hs.take
    rw [ledger_take] at h₁ h₂ h₄
    refine ⟨s', ?_, h₂, ?_, h₄⟩
    · rw [Conversation.run, hs.willing.write_eq]
      exact h₁
    · rw [h₃, accepted_take, spoken, Nat.add_assoc]
  | flush f next ih =>
    obtain ⟨s', h₁, h₂, h₃, h₄⟩ := ih hs.flushed
    refine ⟨s', ?_, h₂, h₃, h₄⟩
    rw [Conversation.run, hs.willing.flush_eq]
    exact h₁
  | receive n z f next ih =>
    rw [Conversation.run, course, spoken]
    by_cases hn : n ≤ S.length
    · obtain ⟨s₁, h₁, hl, ha, hs₁⟩ := hs.receive_of_le hn
      obtain ⟨s', h₂, h₃, h₄, h₅⟩ := ih _ hs₁
      rw [hl] at h₂ h₃ h₅
      rw [ha] at h₄
      rw [dif_pos hn, dif_pos hn, h₁]
      exact ⟨s', h₂, h₃, h₄, h₅⟩
    · obtain ⟨s₁, h₁, hl, ha, hs₁⟩ := hs.receive_of_lt (by omega)
      rw [dif_neg hn, dif_neg hn, h₁]
      cases tail with
      | ended => exact ⟨s₁, rfl, hl, ha, hs₁⟩
      | silent => exact ⟨s₁, rfl, hl, ha, hs₁⟩

/-- On every stream that says the bytes and ends, a run is the course of the conversation. -/
theorem run_eq_course_of_says {c : Conversation ε α} {s : Script} {S : Bytes} (hs : s.Says S) :
    ∃ s', c.run 0 s = ((c.course .ended s.ledger S).1, s') ∧
      s'.ledger = (c.course .ended s.ledger S).2.1 ∧
      s'.Says (c.course .ended s.ledger S).2.2 := by
  induction c generalizing s S with
  | done a => exact ⟨s, rfl, rfl, hs⟩
  | fail e => exact ⟨s, rfl, rfl, hs⟩
  | write m f next ih =>
    obtain ⟨s', hrun, hl, hsays⟩ := ih (hs.take m)
    rw [ledger_take] at hrun hl hsays
    refine ⟨s', ?_, hl, hsays⟩
    rw [Conversation.run, hs.write_eq]
    exact hrun
  | flush f next ih =>
    obtain ⟨s₁, hflush, hs₁, hl₁⟩ := hs.flush_spec
    obtain ⟨s', hrun, hl, hsays⟩ := ih hs₁
    rw [hl₁] at hrun hl hsays
    refine ⟨s', ?_, hl, hsays⟩
    rw [Conversation.run, hflush]
    exact hrun
  | receive n z f next ih =>
    rw [Conversation.run, course]
    by_cases hn : n ≤ S.length
    · have hS : S = (head hn).toList ++ S.drop n := by
        rw [toList_head, List.take_append_drop]
      have hsays := hs
      rw [hS] at hsays
      obtain ⟨s₁, hreceive, hs₁, hl₁⟩ := hsays.receive_append z
      obtain ⟨s', hrun, hl, hsays⟩ := ih (head hn) hs₁
      rw [hl₁] at hrun hl hsays
      rw [dif_pos hn, hreceive]
      exact ⟨s', hrun, hl, hsays⟩
    · obtain ⟨s₁, hreceive, hs₁, hl₁⟩ := hs.receive_short (Nat.lt_of_not_le hn) z
      rw [dif_neg hn, hreceive]
      exact ⟨s₁, rfl, hl₁, hs₁⟩

/-- What stands behind the bytes that were needed is not read and makes no difference, unless the
conversation waited for more than there was. -/
theorem course_behind {p : ε → Prop} {c : Conversation ε α} (hc : c.EndsWith p) {l l' : Ledger}
    {S rest : Bytes} {o : Outcome ε α} (h : c.course tail l S = (o, l', rest))
    (hs : o ≠ .stalled) (he : ∀ e, o = .error e → ¬p e) :
    ∃ heard, S = heard ++ rest ∧ l'.consumed = l.consumed + heard.length ∧
      ∀ tail' B, c.course tail' l (heard ++ B) = (o, l', B) := by
  induction c generalizing l S with
  | done a =>
    cases h
    exact ⟨[], rfl, rfl, fun tail' B => rfl⟩
  | fail e =>
    cases h
    exact ⟨[], rfl, rfl, fun tail' B => rfl⟩
  | write m f next ih =>
    obtain ⟨heard, hS, hl, hB⟩ := ih hc h
    rw [Ledger.consumed_write] at hl
    exact ⟨heard, hS, hl, hB⟩
  | flush f next ih => exact ih hc h
  | receive n z f next ih =>
    rw [course] at h
    split at h
    · rename_i hn
      obtain ⟨heard, hS, hl, hB⟩ := ih _ (hc.2 _) h
      have htake : (S.take n).length = n := List.length_take_of_le hn
      refine ⟨S.take n ++ heard, ?_, ?_, fun tail' B => ?_⟩
      · rw [List.append_assoc, ← hS, List.take_append_drop]
      · rw [hl, List.length_append, htake]
        exact Nat.add_assoc ..
      · have hlen : n ≤ (S.take n ++ heard ++ B).length := by
          rw [List.append_assoc, List.length_append, htake]
          omega
        have hhead : head hlen = head hn := by
          apply Vector.toList_inj.mp
          rw [toList_head, toList_head, List.append_assoc, List.take_left' htake]
        rw [course, dif_pos hlen, hhead, List.append_assoc, List.drop_left' htake]
        exact hB tail' B
    · cases tail with
      | ended =>
        cases h
        exact absurd hc.1 (he _ rfl)
      | silent =>
        cases h
        exact absurd rfl hs

end Conversation

end ProxyTunnel
