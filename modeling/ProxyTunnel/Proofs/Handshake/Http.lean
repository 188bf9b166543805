import ProxyTunnel.Handshake.Http
import ProxyTunnel.Proofs.Http.Response
import ProxyTunnel.Proofs.Stream.Serving

/-!
# The HTTP handshake on a stream

Of all that a server says only the first line that decides matters (`Decides`): the shortest
beginning that ends with a line feed, leaves the head within its room, and on which
`ConnectResponse.parse` says something. Up to that line the bytes are `Quiet`.

* `course_awaitResponse_quiet`: quiet bytes are read one by one and change nothing but the head;
* `course_decided`, `course_full`, `course_short`: the three ways to stop behind them;
* `Decides.length_eq`: a response that decides ends with its line;
* `handshakeHttp_spec`: what the handshake makes of every byte string, and how far it reads.
-/

namespace ProxyTunnel

open Conversation Http

namespace Http

open ConnectResponse

/-- No line that ends in `q` tells whether the head that starts as `h` is complete or refused. -/
def Quiet (h : Head) (q : Bytes) : Prop :=
  ∀ q', q' ++ [lf] <+: q → ofHead? (h.run (q' ++ [lf])) = none

theorem Quiet.tail {h : Head} {b : UInt8} {q : Bytes} (hq : Quiet h (b :: q)) :
    Quiet (h.step b) q := by
  intro q' hp
  exact hq (b :: q') (List.prefix_cons_inj b |>.mpr hp)

theorem Quiet.step_lf {h : Head} {q : Bytes} (hq : Quiet h (lf :: q)) :
    ofHead? (h.step lf) = none :=
  hq [] (List.prefix_append [lf] q)

section

variable {β : Type} {k : ConnectResponse → Conversation HandshakeError β} {tail : Tail} {l : Ledger}

/-- What happens behind each byte of a head. -/
theorem course_awaitResponse_succ (room : Nat) (h : Head) (b : UInt8) (rest : Bytes) :
    (awaitResponse (room + 1) h >>= k).course tail l (b :: rest) =
      ((if b = lf then
        match ofHead? (h.step b) with
        | some result => .ofExcept (result.mapError .ofHttp)
        | none => awaitResponse room (h.step b)
      else awaitResponse room (h.step b) :
        Conversation HandshakeError ConnectResponse) >>= k).course tail (l.read 1) rest := by
  rw [awaitResponse]
  rfl

/-- Quiet bytes are read one by one and change nothing but the head. -/
theorem course_awaitResponse_quiet {h : Head} {q : Bytes} (hq : Quiet h q) (room : Nat)
    (rest : Bytes) :
    (awaitResponse (q.length + room) h >>= k).course tail l (q ++ rest) =
      (awaitResponse room (h.run q) >>= k).course tail (l.read q.length) rest := by
  induction q generalizing h l with
  | nil =>
    rw [List.length_nil, Nat.zero_add]
    rfl
  | cons b q ih =>
    have hl : (l.read 1).read q.length = l.read (b :: q).length := by
      rw [Ledger.read_read, Nat.add_comm]
      rfl
    rw [List.length_cons, Nat.add_right_comm, List.cons_append, course_awaitResponse_succ]
    split
    · rename_i hb
      subst hb
      rw [hq.step_lf]
      dsimp only
      rw [ih hq.tail, hl]
      rfl
    · rw [ih hq.tail, hl]
      rfl

end

/-! ## The line that decides -/

/-- The shortest beginning of `S` that ends a line, fits into the room for a head, and on which
`parse` says something. -/
structure Decides (p S : Bytes) : Prop where
  starts : p <+: S
  endsLine : ∃ q, p = q ++ [lf]
  fits : p.length ≤ maxHeadSize
  speaks : parse p ≠ .ok none
  shortest : ∀ q, q <+: S → (∃ q', q = q' ++ [lf]) → q.length ≤ maxHeadSize →
    parse q ≠ .ok none → p.length ≤ q.length

theorem Decides.quiet {q S : Bytes} (h : Decides (q ++ [lf]) S) : Quiet .start q := by
  intro q' hp
  have hfits := h.fits
  have hle : (q' ++ [lf]).length ≤ q.length := hp.length_le
  rw [List.length_append, List.length_singleton] at hfits
  refine parse_eq_none.mp (Classical.byContradiction fun hs => ?_)
  have hS : q' ++ [lf] <+: S := (hp.trans (List.prefix_append q [lf])).trans h.starts
  have := h.shortest _ hS ⟨q', rfl⟩ (by omega) hs
  rw [List.length_append, List.length_singleton] at this
  omega

/-- Where some line decides, a first one does. -/
theorem exists_decides {S : Bytes} {n : Nat} {q : Bytes} (hn : q.length = n) (hq : q <+: S)
    (hl : ∃ q', q = q' ++ [lf]) (hf : q.length ≤ maxHeadSize) (hs : parse q ≠ .ok none) :
    ∃ p, Decides p S := by
  -- Either a shorter beginning decides as well, or this one is the first.
  induction n using Nat.strongRecOn generalizing q with
  | ind n ih =>
    by_cases h : ∃ r, r.length < n ∧ r <+: S ∧ (∃ q', r = q' ++ [lf]) ∧ r.length ≤ maxHeadSize ∧
        parse r ≠ .ok none
    · obtain ⟨r, hr, hrS, hrl, hrf, hrs⟩ := h
      exact ih r.length hr rfl hrS hrl hrf hrs
    · refine ⟨q, hq, hl, hf, hs, fun r hrS hrl hrf hrs => ?_⟩
      have : ¬r.length < n := fun hr => h ⟨r, hr, hrS, hrl, hrf, hrs⟩
      omega

theorem quiet_take {S : Bytes} (h : ∀ p, ¬Decides p S) : Quiet .start (S.take maxHeadSize) := by
  intro q hp
  have hle := hp.length_le
  rw [List.length_take] at hle
  refine parse_eq_none.mp (Classical.byContradiction fun hs => ?_)
  obtain ⟨p, hd⟩ := exists_decides rfl (hp.trans (List.take_prefix _ S)) ⟨q, rfl⟩ (by omega) hs
  exact h p hd

/-- The response that decides ends where it says. -/
theorem Decides.length_eq {p S : Bytes} (h : Decides p S) {response : ConnectResponse} {n : Nat}
    (hp : parse p = .ok (some (response, n))) : n = p.length := by
  -- The reported length is that of a line that has the response already, so no shorter than `p`.
  obtain ⟨first, rest, rfl, rfl, hrun⟩ := exists_of_parseFrom rfl hp
  have hfits := h.fits
  rw [List.length_append] at hfits
  have hs : parse (first ++ [lf]) ≠ .ok none := fun hn => by
    rw [parse_eq_none.mp hn] at hrun
    cases hrun
  have := h.shortest _ ((List.prefix_append _ rest).trans h.starts) ⟨first, rfl⟩ (by omega) hs
  simp only [List.length_append, List.length_singleton] at this ⊢
  omega

/-! ## The whole handshake -/

theorem toBytes_ne_nil {request : ConnectRequest} {message : Bytes}
    (hm : request.toBytes = .ok message) : message ≠ [] := by
  rw [ConnectRequest.toBytes, ConnectRequest.text] at hm
  intro h
  split at hm
  · cases hm
  · split at hm
    · cases hm
    · cases hm
      cases h

/-- What the handshake makes of a response. -/
def decision : Except HttpError ConnectResponse → Outcome HandshakeError Unit
  | .error e => .error (.ofHttp e)
  | .ok response =>
    if 200 ≤ response.status ∧ response.status ≤ 299 then .ok ()
    else .error (.connectRejected response.status)

/-- The last part of a handshake. -/
def settle (response : ConnectResponse) : Conversation HandshakeError Unit :=
  if response.isSuccess then pure () else .fail (.connectRejected response.status)

theorem run_settle (response : ConnectResponse) (s : Script) :
    (settle response).run 0 s = (decision (.ok response), s) := by
  rw [settle, decision, ConnectResponse.isSuccess]
  simp only [Bool.and_eq_true, decide_eq_true_eq]
  split <;> rfl

section

variable {target : Endpoint} {credential : Option Credential} {userAgent : Option String}
  {message S q rest : Bytes} {tail : Tail} {l : Ledger}

theorem course_settle (response : ConnectResponse) (bs : Bytes) :
    (settle response).course tail l bs = (decision (.ok response), l, bs) := by
  rw [settle, decision, ConnectResponse.isSuccess]
  simp only [Bool.and_eq_true, decide_eq_true_eq]
  split <;> rfl

theorem handshakeHttp_eq
    (hm : (ConnectRequest.mk target userAgent credential).toBytes = .ok message) :
    handshakeHttp target credential userAgent =
      (send message >>= fun _ => awaitResponse maxHeadSize .start) >>= settle := by
  rw [handshakeHttp, hm]
  rfl

/-- Behind the request, the handshake is the wait for the response and what it makes of it. -/
theorem course_handshakeHttp
    (hm : (ConnectRequest.mk target userAgent credential).toBytes = .ok message) :
    (handshakeHttp target credential userAgent).course tail l S =
      (awaitResponse maxHeadSize .start >>= settle).course tail (l.say message) S := by
  rw [handshakeHttp_eq hm]
  rfl

/-- The line that decides is the last that is read. -/
theorem course_decided
    (hm : (ConnectRequest.mk target userAgent credential).toBytes = .ok message)
    (hq : Quiet .start q) {r : Except HttpError ConnectResponse}
    (hr : ofHead? (Head.start.run (q ++ [lf])) = some r)
    (hfits : (q ++ [lf]).length ≤ maxHeadSize) :
    (handshakeHttp target credential userAgent).course tail l (q ++ [lf] ++ rest) =
      (decision r, (l.say message).read (q ++ [lf]).length, rest) := by
  rw [List.length_append, List.length_singleton] at hfits ⊢
  obtain ⟨left, hleft⟩ : ∃ left, maxHeadSize = q.length + (left + 1) :=
    ⟨maxHeadSize - q.length - 1, by omega⟩
  have hstep : ofHead? ((Head.start.run q).step lf) = some r := by
    rw [Head.run_append] at hr
    exact hr
  rw [course_handshakeHttp hm, hleft, List.append_assoc, course_awaitResponse_quiet hq,
    List.singleton_append, course_awaitResponse_succ, if_pos rfl, hstep, Ledger.read_read]
  cases r with
  | error e => rfl
  | ok response => exact course_settle response rest

/-- Where no line decides, all the room is used up. -/
theorem course_full
    (hm : (ConnectRequest.mk target userAgent credential).toBytes = .ok message)
    (hq : Quiet .start q) (hlen : q.length = maxHeadSize) :
    (handshakeHttp target credential userAgent).course tail l (q ++ rest) =
      (.error (.httpResponseTooLarge maxHeadSize), (l.say message).read maxHeadSize, rest) := by
  have hcourse : (awaitResponse (q.length + 0) .start >>= settle).course tail (l.say message)
      (q ++ rest) = _ := course_awaitResponse_quiet hq 0 rest
  rw [Nat.add_zero, hlen] at hcourse
  rw [course_handshakeHttp hm, hcourse]
  rfl

/-- Where no line decides and there is room left, the wait goes on to the tail. -/
theorem course_short
    (hm : (ConnectRequest.mk target userAgent credential).toBytes = .ok message)
    (hq : Quiet .start q) (hroom : q.length < maxHeadSize) :
    (handshakeHttp target credential userAgent).course tail l q =
      (tail.outcome .streamTruncated, (l.say message).read q.length, []) := by
  obtain ⟨left, hleft⟩ : ∃ left, maxHeadSize = q.length + (left + 1) :=
    ⟨maxHeadSize - q.length - 1, by omega⟩
  have hcourse : (awaitResponse (q.length + (left + 1)) .start >>= settle).course tail
      (l.say message) (q ++ []) = _ := course_awaitResponse_quiet hq (left + 1) []
  rw [List.append_nil, ← hleft] at hcourse
  rw [course_handshakeHttp hm, hcourse, awaitResponse]
  rfl

variable {s s' : Script} {outcome : Outcome HandshakeError Unit}

theorem ledger_requested
    (hm : (ConnectRequest.mk target userAgent credential).toBytes = .ok message)
    (hp : s.pending = none) :
    s.ledger.say message = ⟨s.consumed, s.sent ++ [⟨s.consumed, message⟩], none⟩ := by
  rw [Ledger.say_of_settled hp (toBytes_ne_nil hm), Script.ledger, hp]

theorem handshakeHttp_decided
    (hm : (ConnectRequest.mk target userAgent credential).toBytes = .ok message) (hs : s.Says S)
    (hp : s.pending = none)
    (hrun : (handshakeHttp target credential userAgent).run 0 s = (outcome, s')) {p : Bytes}
    (hd : Decides p S) :
    s'.ledger = ⟨s.consumed + p.length, s.sent ++ [⟨s.consumed, message⟩], none⟩ ∧
      s'.Says (S.drop p.length) ∧
      ∃ r, ofHead? (Head.start.run p) = some r ∧ outcome = decision r := by
  obtain ⟨q, rfl⟩ := hd.endsLine
  obtain ⟨rest, rfl⟩ := hd.starts
  obtain ⟨r, hr⟩ : ∃ r, ofHead? (Head.start.run (q ++ [lf])) = some r :=
    Option.ne_none_iff_exists'.mp fun h => hd.speaks (parse_eq_none.mpr h)
  obtain ⟨s₁, hcourse, hl, hsays⟩ := run_eq_course_of_says hs
  rw [course_decided hm hd.quiet hr hd.fits, ledger_requested hm hp] at hcourse hl hsays
  cases hrun.symm.trans hcourse
  refine ⟨hl, ?_, r, hr, rfl⟩
  rw [List.drop_left]
  exact hsays

theorem handshakeHttp_full
    (hm : (ConnectRequest.mk target userAgent credential).toBytes = .ok message) (hs : s.Says S)
    (hp : s.pending = none)
    (hrun : (handshakeHttp target credential userAgent).run 0 s = (outcome, s'))
    (hd : ∀ p, ¬Decides p S) (hf : maxHeadSize ≤ S.length) :
    s'.ledger = ⟨s.consumed + maxHeadSize, s.sent ++ [⟨s.consumed, message⟩], none⟩ ∧
      s'.Says (S.drop maxHeadSize) ∧ outcome = .error (.httpResponseTooLarge maxHeadSize) := by
  have hlen : (S.take maxHeadSize).length = maxHeadSize := by rw [List.length_take]; omega
  have hends := hs
  rw [← List.take_append_drop maxHeadSize S] at hends
  obtain ⟨s₁, hcourse, hl, hsays⟩ := run_eq_course_of_says hends
  rw [course_full hm (quiet_take hd) hlen, ledger_requested hm hp] at hcourse hl hsays
  cases hrun.symm.trans hcourse
  exact ⟨hl, hsays, rfl⟩

theorem handshakeHttp_ended
    (hm : (ConnectRequest.mk target userAgent credential).toBytes = .ok message) (hs : s.Says S)
    (hp : s.pending = none)
    (hrun : (handshakeHttp target credential userAgent).run 0 s = (outcome, s'))
    (hd : ∀ p, ¬Decides p S) (hf : S.length < maxHeadSize) :
    s'.ledger = ⟨s.consumed + S.length, s.sent ++ [⟨s.consumed, message⟩], none⟩ ∧
      s'.Says [] ∧ outcome = .error .streamTruncated := by
  have hq := quiet_take hd
  rw [List.take_of_length_le (Nat.le_of_lt hf)] at hq
  obtain ⟨s₁, hcourse, hl, hsays⟩ := run_eq_course_of_says hs
  rw [course_short hm hq hf, ledger_requested hm hp] at hcourse hl hsays
  cases hrun.symm.trans hcourse
  exact ⟨hl, hsays, rfl⟩

/-- Whatever the server says, the handshake reads no more than the room for a head. -/
theorem handshakeHttp_ledger
    (hm : (ConnectRequest.mk target userAgent credential).toBytes = .ok message) (hs : s.Says S)
    (hp : s.pending = none)
    (hrun : (handshakeHttp target credential userAgent).run 0 s = (outcome, s')) :
    ∃ n ≤ maxHeadSize,
      s'.ledger = ⟨s.consumed + n, s.sent ++ [⟨s.consumed, message⟩], none⟩ := by
  by_cases hd : ∃ p, Decides p S
  · obtain ⟨p, hd⟩ := hd
    exact ⟨p.length, hd.fits, (handshakeHttp_decided hm hs hp hrun hd).1⟩
  · have hd : ∀ p, ¬Decides p S := fun p h => hd ⟨p, h⟩
    rcases Nat.lt_or_ge S.length maxHeadSize with hf | hf
    · exact ⟨S.length, Nat.le_of_lt hf, (handshakeHttp_ended hm hs hp hrun hd hf).1⟩
    · exact ⟨maxHeadSize, Nat.le_refl _, (handshakeHttp_full hm hs hp hrun hd hf).1⟩

/-- The HTTP handshake sends its request, reads up to the line that decides and not one byte more,
and never more than the room for a head. -/
theorem handshakeHttp_spec
    (hm : (ConnectRequest.mk target userAgent credential).toBytes = .ok message)
    (hs : s.Says S) (hp : s.pending = none)
    (hrun : (handshakeHttp target credential userAgent).run 0 s = (outcome, s')) :
    s'.sent = s.sent ++ [⟨s.consumed, message⟩] ∧ s'.pending = none ∧
    s'.consumed ≤ s.consumed + maxHeadSize ∧
    (∀ p, Decides p S → s'.consumed = s.consumed + p.length ∧ s'.Says (S.drop p.length) ∧
      match parse p with
      | .ok (some (response, n)) => n = p.length ∧
        outcome = if 200 ≤ response.status ∧ response.status ≤ 299 then .ok ()
          else .error (.connectRejected response.status)
      | .ok none => False
      | .error e => outcome = .error (.ofHttp e)) ∧
    ((∀ p, ¬Decides p S) → maxHeadSize ≤ S.length →
      outcome = .error (.httpResponseTooLarge maxHeadSize) ∧
        s'.consumed = s.consumed + maxHeadSize ∧ s'.Says (S.drop maxHeadSize)) ∧
    ((∀ p, ¬Decides p S) → S.length < maxHeadSize →
      outcome = .error .streamTruncated ∧ s'.consumed = s.consumed + S.length ∧ s'.Says []) := by
  obtain ⟨n, hn, hledger⟩ := handshakeHttp_ledger hm hs hp hrun
  have hconsumed : s'.consumed = s.consumed + n := congrArg Ledger.consumed hledger
  refine ⟨congrArg Ledger.sent hledger, congrArg Ledger.pending hledger, by omega, ?_, ?_, ?_⟩
  · intro p hd
    obtain ⟨hl, hs', r, hr, rfl⟩ := handshakeHttp_decided hm hs hp hrun hd
    refine ⟨congrArg Ledger.consumed hl, hs', ?_⟩
    split <;> rename_i hparse
    · rw [ofHead?_of_parse_ok hparse] at hr
      cases hr
      exact ⟨hd.length_eq hparse, rfl⟩
    · exact hd.speaks hparse
    · rw [ofHead?_of_parse_error hparse] at hr
      cases hr
      rfl
  · intro hd hf
    obtain ⟨hl, hs', ho⟩ := handshakeHttp_full hm hs hp hrun hd hf
    exact ⟨ho, congrArg Ledger.consumed hl, hs'⟩
  · intro hd hf
    obtain ⟨hl, hs', ho⟩ := handshakeHttp_ended hm hs hp hrun hd hf
    exact ⟨ho, congrArg Ledger.consumed hl, hs'⟩

/-- A short response with the first byte of the tunnel behind it. -/
def shortResponse : Bytes := Text.Utf8.encode "HTTP/1.1 200\n\n"

theorem decides_shortResponse : Decides shortResponse (shortResponse ++ [42]) where
  starts := List.prefix_append _ _
  endsLine := ⟨Text.Utf8.encode "HTTP/1.1 200\n", rfl⟩
  fits := by decide
  speaks := by
    intro h
    cases h
  shortest := by
    intro q hq hl hf hs
    obtain ⟨q', rfl⟩ := hl
    have hshort : ∀ n < 14, ((shortResponse ++ [42]).take n).getLast? = some lf →
        ofHead? (Head.start.run ((shortResponse ++ [42]).take n)) = none := by
      decide
    refine Nat.le_of_not_lt fun hlt => hs (parse_eq_none.mpr ?_)
    have htake := List.prefix_iff_eq_take.mp hq
    rw [htake]
    refine hshort _ hlt ?_
    rw [← htake, List.getLast?_concat]

theorem handshakeHttp_spec_short :
    let s : Script := { items := [.data (shortResponse ++ [42])] }
    let run := (handshakeHttp (.domain "example.org" 80) none none).run 0 s
    run.1 = .ok () ∧ run.2.consumed = 14 := by
  intro s run
  have hm : (ConnectRequest.mk (.domain "example.org" 80) none none).toBytes = .ok (Text.Utf8.encode
      "CONNECT example.org:80 HTTP/1.1\r\nHost: example.org:80\r\n\r\n") := by
    rfl
  have hs : s.Says (shortResponse ++ [42] ++ []) := ⟨.data _ .nil, by decide, rfl, rfl⟩
  rw [List.append_nil] at hs
  obtain ⟨-, -, -, h, -, -⟩ := handshakeHttp_spec hm hs rfl (Prod.eta run).symm
  obtain ⟨hc, -, ho⟩ := h _ decides_shortResponse
  exact ⟨ho.2, hc⟩

end

end Http

end ProxyTunnel
