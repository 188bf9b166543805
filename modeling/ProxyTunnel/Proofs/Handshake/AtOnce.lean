import ProxyTunnel.Proofs.Handshake.Http
import ProxyTunnel.Proofs.Http.Grammar
import ProxyTunnel.Proofs.Stream.Heard

/-!
# Responses at once and byte by byte

The handshake takes a response byte by byte and looks at it where lines end;
`ConnectResponse.parse` looks at all bytes at once. They agree, because what is said of some bytes
is not taken back when more of them come.

* `quiet_of_none`, `quiet_of_some`: up to where `parse` finds something, no line tells anything;
* `run_of_parse_some`, `run_of_parse_none`, `run_behind_of_parse_none`: so the handshake ends with
  the line that `parse` finds, and not before;
* `exists_of_answered`: who gets through or is refused has heard bytes with a response in them;
* `handshakeHttp_parse`: what `parse` says of some bytes decides the handshake on all streams that
  start with them.
-/

namespace ProxyTunnel

open Conversation Http

namespace Http

open ConnectResponse

variable {q rest : Bytes} {h : Head}

/-! ## What is said is not taken back -/

theorem ofHead?_extend {r : Except HttpError ConnectResponse} (hp : q <+: rest)
    (hr : ofHead? (h.run q) = some r) : ofHead? (h.run rest) = some r := by
  obtain ⟨more, rfl⟩ := hp
  rw [Head.run_append, Head.run_of_settled ⟨r, hr⟩, hr]

theorem quiet_of_none (hn : ofHead? (h.run q) = none) : Quiet h q := by
  intro q' hp
  cases hr : ofHead? (h.run (q' ++ [lf])) with
  | none => rfl
  | some r =>
    rw [ofHead?_extend hp hr] at hn
    cases hn

/-- A response that is found ends with a line that tells it, and no line before that tells
anything. -/
theorem quiet_of_some {bs : Bytes} {response : ConnectResponse} {n : Nat}
    (hp : parse bs = .ok (some (response, n))) :
    ∃ first rest, bs = first ++ [lf] ++ rest ∧ n = (first ++ [lf]).length ∧ Quiet .start first ∧
      ofHead? (Head.start.run (first ++ [lf])) = some (.ok response) := by
  obtain ⟨hstatus, head, rest, rfl, rfl, hh⟩ := parse_eq_some.mp hp
  obtain ⟨first, rfl, hfirst, hrun⟩ := Head.eq_append_of_isHead hh
  refine ⟨first, rest, rfl, rfl, quiet_of_none hfirst, ?_⟩
  rw [hrun, ofHead?, ofStatus_eq_ok.mpr ⟨hstatus, rfl⟩]

/-! ## On streams that serve the response -/

section

variable {target : Endpoint} {credential : Option Credential} {userAgent : Option String}
  {message bs : Bytes} {s : Script} {tail : Tail} {l : Ledger}

/-- Where no line decides, what comes behind is read. -/
theorem lt_consumed_course
    (hm : (ConnectRequest.mk target userAgent credential).toBytes = .ok message)
    (hq : Quiet .start q) (hroom : q.length < maxHeadSize) (hrest : rest ≠ []) :
    l.consumed + q.length <
      ((handshakeHttp target credential userAgent).course tail l (q ++ rest)).2.1.consumed := by
  obtain ⟨left, hleft⟩ : ∃ left, maxHeadSize = q.length + (left + 1) :=
    ⟨maxHeadSize - q.length - 1, by omega⟩
  obtain ⟨b, rest, rfl⟩ := List.exists_cons_of_ne_nil hrest
  rw [course_handshakeHttp hm, hleft, course_awaitResponse_quiet hq, course_awaitResponse_succ]
  refine Nat.lt_of_lt_of_le ?_ (consumed_le_course _ tail _ rest)
  show l.consumed + q.length < (l.say message).consumed + q.length + 1
  rw [Ledger.consumed_say]
  exact Nat.lt_succ_self _

/-- Where `parse` finds a response, the handshake finds it and stops behind it. -/
theorem run_of_parse_some
    (hm : (ConnectRequest.mk target userAgent credential).toBytes = .ok message)
    {response : ConnectResponse} {n : Nat} (hp : parse bs = .ok (some (response, n)))
    (hn : n ≤ maxHeadSize)
    (hs : s.Answers (handshakeHttp target credential userAgent) tail (bs ++ rest)) :
    ∃ s', (handshakeHttp target credential userAgent).run 0 s = (decision (.ok response), s') ∧
      s'.consumed = s.consumed + n ∧ s'.Holds tail ((bs ++ rest).drop n) := by
  obtain ⟨first, after, rfl, rfl, hq, hr⟩ := quiet_of_some hp
  rw [List.append_assoc _ after] at hs ⊢
  obtain ⟨s', hrun, hledger, -, hholds⟩ := run_eq_course hs
  rw [course_decided hm hq hr hn] at hrun hledger hholds
  have hc : s'.consumed = (s.ledger.say message).consumed + (first ++ [lf]).length :=
    congrArg Ledger.consumed hledger
  rw [Ledger.consumed_say] at hc
  refine ⟨s', hrun, hc, ?_⟩
  rw [List.drop_left]
  exact hholds

/-- Where `parse` finds nothing and there is room left, the handshake waits for more. -/
theorem run_of_parse_none
    (hm : (ConnectRequest.mk target userAgent credential).toBytes = .ok message)
    (hp : parse bs = .ok none) (hn : bs.length < maxHeadSize)
    (hs : s.Answers (handshakeHttp target credential userAgent) tail bs) :
    ∃ s', (handshakeHttp target credential userAgent).run 0 s =
        (tail.outcome .streamTruncated, s') ∧
      s'.consumed = s.consumed + bs.length := by
  obtain ⟨s', hrun, hledger, -, -⟩ := run_eq_course hs
  rw [course_short hm (quiet_of_none (parse_eq_none.mp hp)) hn] at hrun hledger
  have hc : s'.consumed = (s.ledger.say message).consumed + bs.length :=
    congrArg Ledger.consumed hledger
  rw [Ledger.consumed_say] at hc
  exact ⟨s', hrun, hc⟩

theorem run_behind_of_parse_none
    (hm : (ConnectRequest.mk target userAgent credential).toBytes = .ok message)
    (hp : parse bs = .ok none) (hn : bs.length < maxHeadSize) (hrest : rest ≠ [])
    (hs : s.Answers (handshakeHttp target credential userAgent) tail (bs ++ rest)) :
    s.consumed + bs.length < ((handshakeHttp target credential userAgent).run 0 s).2.consumed := by
  obtain ⟨s', hrun, hledger, -, -⟩ := run_eq_course hs
  rw [hrun]
  show s.ledger.consumed + bs.length < s'.ledger.consumed
  rw [hledger]
  exact lt_consumed_course hm (quiet_of_none (parse_eq_none.mp hp)) hn hrest

end

/-! ## On streams of all kinds -/

/-- Who gets a response has heard bytes with that response in them. -/
theorem ofHead?_of_hears {room : Nat} {l l' : Ledger} {heard : Bytes} {response : ConnectResponse}
    (hh : (awaitResponse room h).Hears l heard (.ok response) l') :
    ofHead? (h.run heard) = some (.ok response) := by
  induction room generalizing h l heard with
  | zero =>
    obtain ⟨-, hh, -⟩ := hh
    cases hh
  | succ room ih =>
    rw [awaitResponse, hears_byte_bind] at hh
    obtain ⟨b, heard, rfl, hh⟩ := hh
    show ofHead? ((h.step b).run heard) = _
    dsimp only at hh
    split at hh
    · split at hh
      · rename_i result hr
        obtain ⟨rfl, hresult, -⟩ := hears_ofExcept.mp hh
        cases result with
        | error e => cases hresult
        | ok response => cases hresult; exact hr
      · exact ih hh
    · exact ih hh

/-- The wait itself is never refused by the server. -/
theorem never_rejected_awaitResponse (room : Nat) (h : Head) :
    (awaitResponse room h).Never (·.kind = .connectRejected) := by
  induction room generalizing h with
  | zero => rintro ⟨⟩
  | succ room ih =>
    refine ⟨fun fault => ?_, fun v => ?_⟩
    · rw [HandshakeError.ofRead]
      split <;> rintro ⟨⟩
    · show (if v[0] = lf then _ else awaitResponse room (h.step v[0])).Never _
      split
      · split
        · refine never_ofExcept fun e he => ?_
          rename_i result _
          cases result with
          | error e => cases he; cases e <;> rintro ⟨⟩
          | ok response => cases he
        · exact ih _
      · exact ih _

section

variable {target : Endpoint} {credential : Option Credential} {userAgent : Option String}
  {s s' : Script} {o : Outcome HandshakeError Unit}

/-- Whatever may go wrong on a stream: if the handshake gets through or is refused, then it took
bytes from the stream that have a response in them. -/
theorem exists_of_answered
    (hrun : (handshakeHttp target credential userAgent).run 0 s = (o, s'))
    (ho : o = .ok () ∨ ∃ n, o = .error (.connectRejected n)) :
    ∃ heard response, s.unread = heard ++ s'.unread ∧
      ofHead? (Head.start.run heard) = some (.ok response) := by
  cases hm : (ConnectRequest.mk target userAgent credential).toBytes with
  | error e =>
    rw [handshakeHttp, hm] at hrun
    cases hrun
    obtain ho | ⟨n, ho⟩ := ho
    · cases ho
    · cases e <;> cases ho
  | ok message =>
  rw [handshakeHttp_eq hm, run_bind] at hrun
  split at hrun
  · rename_i response s₁ hask
    obtain ⟨heard, put, hheard, hcarries⟩ := hears_of_run hask
    rw [run_settle] at hrun
    cases hrun
    exact ⟨heard, response, hcarries.unread, ofHead?_of_hears (hears_send_bind.mp hheard)⟩
  · rename_i e s₁ hask
    cases hrun
    have hnever : (send message >>= fun _ => awaitResponse maxHeadSize .start).Never
        (·.kind = .connectRejected) :=
      ⟨fun _ => by rintro ⟨⟩, fun _ => by rintro ⟨⟩,
        never_rejected_awaitResponse maxHeadSize .start⟩
    obtain ho | ⟨n, ho⟩ := ho
    · cases ho
    · cases ho
      exact absurd rfl (hnever.run hask)
  · cases hrun
    obtain ho | ⟨n, ho⟩ := ho <;> cases ho

/-- Bytes that `parse` refuses lead to no response, whatever comes behind them. -/
theorem not_answered_of_parse_error {bs rest : Bytes} {e : HttpError} (hp : parse bs = .error e)
    (hs : s.unread = bs ++ rest)
    (hrun : (handshakeHttp target credential userAgent).run 0 s = (o, s')) :
    o ≠ .ok () ∧ ∀ n, o ≠ .error (.connectRejected n) := by
  rw [← not_exists, ← not_or]
  intro ho
  obtain ⟨heard, response, hunread, hheard⟩ := exists_of_answered hrun ho
  have hrefused := ofHead?_of_parse_error hp
  rw [hs] at hunread
  -- Both are beginnings of what there is, so one of them is a beginning of the other.
  obtain hpre | hpre := List.prefix_or_prefix_of_prefix ⟨rest, hunread⟩ (List.prefix_append heard _)
  · rw [ofHead?_extend hpre hrefused] at hheard
    cases hheard
  · rw [ofHead?_extend hpre hheard] at hrefused
    cases hrefused

/-- What `parse` says of some bytes decides the handshake on every stream that starts with them. If
it finds a response, so does the handshake, which stops right behind it. If it finds nothing and
there is room left, the handshake reads on. If it refuses the bytes, then the handshake neither gets
through nor is refused, whatever may go wrong on the stream. And what it finds are the heads of
responses. -/
theorem handshakeHttp_parse (target : Endpoint) (credential : Option Credential)
    (userAgent : Option String) :
    (∀ message, (ConnectRequest.mk target userAgent credential).toBytes = .ok message →
      ∀ (s : Script) (tail : Tail) (bs rest : Bytes),
        s.Answers (handshakeHttp target credential userAgent) tail (bs ++ rest) →
        ∀ outcome s', (handshakeHttp target credential userAgent).run 0 s = (outcome, s') →
          (∀ response n, parse bs = .ok (some (response, n)) → n ≤ 8192 →
            (outcome = if 200 ≤ response.status ∧ response.status ≤ 299 then .ok ()
              else .error (.connectRejected response.status)) ∧
            s'.consumed = s.consumed + n ∧ s'.Holds tail ((bs ++ rest).drop n)) ∧
          (parse bs = .ok none → bs.length < 8192 →
            (rest = [] → outcome = tail.outcome .streamTruncated ∧
              s'.consumed = s.consumed + bs.length) ∧
            (rest ≠ [] → s.consumed + bs.length < s'.consumed))) ∧
    (∀ (s : Script) (bs rest : Bytes) (e : HttpError), parse bs = .error e →
      s.unread = bs ++ rest →
      ∀ outcome s', (handshakeHttp target credential userAgent).run 0 s = (outcome, s') →
        outcome ≠ .ok () ∧ ∀ n, outcome ≠ .error (.connectRejected n)) ∧
    ∀ (bs : Bytes) (response : ConnectResponse) (n : Nat), parse bs = .ok (some (response, n)) ↔
      100 ≤ response.status ∧
        ∃ head rest, bs = head ++ rest ∧ n = head.length ∧ IsHead head response.status := by
  refine ⟨fun message hm s tail bs rest hs outcome s' hrun =>
      ⟨fun response n hp hn => ?_, fun hp hn => ⟨?_, ?_⟩⟩,
    fun s bs rest e hp hs outcome s' hrun => not_answered_of_parse_error hp hs hrun,
    fun bs response n => parse_eq_some⟩
  · obtain ⟨s₁, hsome, hc, hholds⟩ := run_of_parse_some hm hp hn hs
    cases hrun.symm.trans hsome
    exact ⟨rfl, hc, hholds⟩
  · rintro rfl
    rw [List.append_nil] at hs
    obtain ⟨s₁, hnone, hc⟩ := run_of_parse_none hm hp hn hs
    cases hrun.symm.trans hnone
    exact ⟨rfl, hc⟩
  · intro hrest
    have hbehind := run_behind_of_parse_none hm hp hn hrest hs
    rw [hrun] at hbehind
    exact hbehind

/-- A response with the first byte of the tunnel behind it, its first line alone, and a version that
is not spoken. -/
theorem handshakeHttp_parse_short :
    let run (s : Script) := (handshakeHttp (.domain "example.org" 80) none none).run 0 s
    let served (bs : Bytes) : Script := { items := [.data bs, .stall] }
    (run (served (shortResponse ++ [42]))).1 = .ok () ∧
      (run (served (shortResponse ++ [42]))).2.consumed = 14 ∧
      (run (served (shortResponse.take 13))).1 = .stalled ∧
      (run (served (Text.Utf8.encode "HTTP/2 200\n\n"))).1 ≠ .ok () := by
  intro run served
  have hm : (ConnectRequest.mk (.domain "example.org" 80) none none).toBytes = .ok (Text.Utf8.encode
      "CONNECT example.org:80 HTTP/1.1\r\nHost: example.org:80\r\n\r\n") := by
    rfl
  have hs (bs : Bytes) : (served bs).Holds .silent (bs ++ []) :=
    ⟨⟨nofun, rfl, rfl⟩, .data bs (.stall rfl [])⟩
  have hrun (bs : Bytes) :
      (handshakeHttp (.domain "example.org" 80) none none).run 0 (served bs) =
        ((run (served bs)).1, (run (served bs)).2) := rfl
  -- The runs are known by the theorem alone and need not be evaluated.
  generalize run = run at hrun ⊢
  obtain ⟨hserved, hrefused, -⟩ := handshakeHttp_parse (.domain "example.org" 80) none none
  have hall := hs (shortResponse ++ [42])
  rw [List.append_nil] at hall
  obtain ⟨hsome, -⟩ := hserved _ hm _ .silent shortResponse [42] (hall.answers _) _ _ (hrun _)
  obtain ⟨-, hnone⟩ := hserved _ hm _ .silent (shortResponse.take 13) []
    ((hs (shortResponse.take 13)).answers _) _ _ (hrun _)
  have hwrong : parse (Text.Utf8.encode "HTTP/2 200\n\n") = .error (.parseResponse .version) := by
    rfl
  obtain ⟨ho, hc, -⟩ := hsome ⟨200⟩ 14 rfl (by decide)
  obtain ⟨hstalled, -⟩ := (hnone rfl (by decide)).1 rfl
  obtain ⟨hnot, -⟩ := hrefused _ _ [] _ hwrong (List.append_nil _) _ _ (hrun _)
  exact ⟨ho.trans (if_pos (by decide)), hc, hstalled, hnot⟩

end

end Http

end ProxyTunnel
