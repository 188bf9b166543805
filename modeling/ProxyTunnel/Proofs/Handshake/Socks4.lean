import ProxyTunnel.Handshake.Socks4
import ProxyTunnel.Proofs.Socks.Version4
import ProxyTunnel.Proofs.Stream.Serving

/-!
# The SOCKS4 handshake from end to end

One request, laid out for an IPv4 address or for a host name (`Socks4.Layout`), and eight bytes of a
reply, of which the first two decide (`Socks4.decision`).

* `handshakeSocks4_replied`, `handshakeSocks4_short`: what comes of eight bytes, and of fewer;
* `handshakeSocks4_spec`: what it sends, gives and leaves on a stream that ends.
-/

namespace ProxyTunnel

open Conversation Text Net Socks

namespace Socks4

/-- The request for a target, byte by byte. SOCKS4a has an address that stands for the host name
behind the user ID. -/
inductive Layout (userId : Bytes) : Endpoint → Bytes → Prop where
  | address (ip : Ipv4) (port : UInt16) : Layout userId (.socket (.v4 ip port))
    ([4, 1] ++ Word.bytes port ++ ip.bytes ++ userId ++ [0])
  | host {name : String} (h : 0 ∉ Utf8.encode name) (port : UInt16) :
    Layout userId (.domain name port)
      ([4, 1] ++ Word.bytes port ++ [0, 0, 0, 1] ++ userId ++ [0] ++ Utf8.encode name ++ [0])

/-- What the first two bytes of a reply mean. -/
def decision (version code : UInt8) : Except HandshakeError Unit :=
  if version = 0 then
    if code = 0x5A then .ok () else .error (.connectRejected code.toNat)
  else .error (.invalidSocks4ReplyVersion version)

theorem decision_eq_ok {v c : UInt8} : decision v c = .ok () ↔ v = 0 ∧ c = 0x5A := by
  unfold decision
  split
  · split <;> simp_all
  · simp_all

theorem decision_eq_connectRejected {v c : UInt8} {n : Nat} :
    decision v c = .error (.connectRejected n) ↔ v = 0 ∧ c ≠ 0x5A ∧ c.toNat = n := by
  unfold decision
  split
  · split <;> simp_all
  · simp_all

theorem decision_eq_invalidVersion {v c version : UInt8} :
    decision v c = .error (.invalidSocks4ReplyVersion version) ↔ v = version ∧ version ≠ 0 := by
  unfold decision
  split
  · rename_i hv
    subst hv
    split <;> simp +contextual [eq_comm]
  · rename_i hv
    simp only [Except.error.injEq, HandshakeError.invalidSocks4ReplyVersion.injEq]
    exact ⟨fun h => ⟨h, h ▸ hv⟩, And.left⟩

theorem decision_ne_truncated (v c : UInt8) : decision v c ≠ .error .streamTruncated := by
  unfold decision
  split
  · split <;> nofun
  · nofun

section

variable {target : Endpoint} {userId : Bytes} {request : Request}

theorem layout_toBytes (hb : Request.build target userId = .ok request) :
    Layout userId target.normalize request.toBytes := by
  obtain ⟨-, ⟨ip, port, hn, rfl⟩ | ⟨name, port, hn, hname, rfl⟩⟩ := eq_of_build hb
  · rw [hn]
    have hbytes : (Request.mk (.address ip) port userId).toBytes =
        [4, 1] ++ Word.bytes port ++ ip.bytes ++ userId ++ [0] := by
      simp only [Request.toBytes, Version.code, List.append_assoc]
    rw [hbytes]
    exact .address ip port
  · rw [hn]
    have hbytes : (Request.mk (.host name) port userId).toBytes =
        [4, 1] ++ Word.bytes port ++ [0, 0, 0, 1] ++ userId ++ [0] ++ Utf8.encode name ++ [0] := by
      simp only [Request.toBytes, Version.code, Request.hostFollows, Ipv4.bytes, List.append_assoc,
        List.cons_append, List.nil_append]
    rw [hbytes]
    exact .host hname port

/-- The last part of the handshake. -/
def settle (field : ReplyField) : Conversation HandshakeError Unit :=
  match field with
  | .granted => pure ()
  | field => .fail (.connectRejected field.code.toNat)

theorem settle_ofCode (c : UInt8) : settle (.ofCode c) = .ofExcept (decision 0 c) := by
  unfold ReplyField.ofCode
  split
  · rfl
  · rfl
  · rfl
  · rfl
  · rename_i hc _ _ _
    rw [decision, if_pos rfl, if_neg hc]
    rfl

theorem course_ofExcept {ε α : Type} (tail : Tail) (x : Except ε α) (l : Ledger) (bs : Bytes) :
    (Conversation.ofExcept x).course tail l bs = (.ofExcept x, l, bs) := by
  cases x <;> rfl

/-- The handshake is a request, and a block of which two bytes decide. -/
theorem handshakeSocks4_eq (hb : Request.build target userId = .ok request) :
    handshakeSocks4 target userId = send request.toBytes >>= fun _ =>
      block 8 .ofRead >>= fun v => .ofExcept (decision v[0]! v[1]!) := by
  rw [handshakeSocks4, hb]
  refine congrArg (send request.toBytes >>= ·) (funext fun _ => ?_)
  refine congrArg (Conversation.receive 8 .earlyEnd _) (funext fun v => ?_)
  show ((Conversation.ofExcept (Reply.ofVector v)).mapError HandshakeError.ofSocks).bind
    (fun reply => settle reply.field) = .ofExcept (decision v[0]! v[1]!)
  rw [Reply.ofVector, getElem!_pos v 0 (by decide), getElem!_pos v 1 (by decide)]
  by_cases hv : v[0] = 0
  · rw [if_pos hv, hv]
    exact settle_ofCode v[1]
  · rw [if_neg hv, decision, if_neg hv]
    rfl

end

section

variable {target : Endpoint} {userId S : Bytes} {request : Request} {s s' : Script}
  {outcome : Outcome HandshakeError Unit}

theorem ledger_requested (hp : s.pending = none) :
    s.ledger.say request.toBytes =
      ⟨s.consumed, s.sent ++ [⟨s.consumed, request.toBytes⟩], none⟩ := by
  have hne : request.toBytes ≠ [] := by simp [Request.toBytes]
  rw [Ledger.say_of_settled hp hne, Script.ledger, hp]

/-- Eight bytes are a reply. -/
theorem handshakeSocks4_replied (hb : Request.build target userId = .ok request)
    (hp : s.pending = none) {v c : UInt8} {six rest : Bytes} (hsix : six.length = 6)
    (hs : s.Says (v :: c :: six ++ rest))
    (hrun : (handshakeSocks4 target userId).run 0 s = (outcome, s')) :
    outcome = .ofExcept (decision v c) ∧ s'.Says rest ∧
      s'.ledger = ⟨s.consumed + 8, s.sent ++ [⟨s.consumed, request.toBytes⟩], none⟩ := by
  have hlen : (v :: c :: six).length = 8 := by rw [List.length_cons, List.length_cons, hsix]
  have henough : 8 ≤ (v :: c :: six ++ rest).length := by
    rw [List.length_append, hlen]
    exact Nat.le_add_right _ _
  have hend : (handshakeSocks4 target userId).course .ended s.ledger (v :: c :: six ++ rest) =
      (.ofExcept (decision v c), (s.ledger.say request.toBytes).read 8, rest) := by
    rw [handshakeSocks4_eq hb]
    refine (dif_pos henough).trans ?_
    show (Conversation.ofExcept (decision v c)).course _ _ (List.drop 8 (v :: c :: six ++ rest)) = _
    rw [course_ofExcept, List.drop_left' hlen]
    rfl
  obtain ⟨s₁, hcourse, hl, hsays⟩ := run_eq_course_of_says hs
  rw [hend, ledger_requested hp] at hcourse hl hsays
  cases hrun.symm.trans hcourse
  exact ⟨rfl, hsays, hl⟩

/-- Less than eight bytes are none. -/
theorem handshakeSocks4_short (hb : Request.build target userId = .ok request)
    (hp : s.pending = none) (hshort : S.length < 8) (hs : s.Says S)
    (hrun : (handshakeSocks4 target userId).run 0 s = (outcome, s')) :
    outcome = .error .streamTruncated ∧ s'.Says [] ∧
      s'.ledger = ⟨s.consumed + S.length, s.sent ++ [⟨s.consumed, request.toBytes⟩], none⟩ := by
  obtain ⟨s₁, hcourse, hl, hsays⟩ := run_eq_course_of_says hs
  have hend : (handshakeSocks4 target userId).course .ended s.ledger S =
      (.error .streamTruncated, (s.ledger.say request.toBytes).read S.length, []) := by
    rw [handshakeSocks4_eq hb]
    exact dif_neg (Nat.not_le.mpr hshort)
  rw [hend, ledger_requested hp] at hcourse hl hsays
  cases hrun.symm.trans hcourse
  exact ⟨rfl, hsays, hl⟩

theorem exists_reply (h : 8 ≤ S.length) :
    ∃ v c six rest, six.length = 6 ∧ S = v :: c :: six ++ rest := by
  match S, h with
  | v :: c :: behind, h =>
    have hsix : (behind.take 6).length = 6 := by
      rw [List.length_cons, List.length_cons] at h
      exact List.length_take_of_le (by omega)
    refine ⟨v, c, behind.take 6, behind.drop 6, hsix, ?_⟩
    rw [List.cons_append, List.cons_append, List.take_append_drop]

/-- The SOCKS4 handshake sends one request. It reads eight bytes of what the server says, or all of
it if that is less, and the first two of the eight decide. -/
theorem handshakeSocks4_spec (hb : Request.build target userId = .ok request) (hs : s.Says S)
    (hp : s.pending = none) (hrun : (handshakeSocks4 target userId).run 0 s = (outcome, s')) :
    (∃ m, Layout userId target.normalize m ∧ 0 ∉ userId ∧ m.length = request.size ∧
      s'.sent = s.sent ++ [⟨s.consumed, m⟩] ∧ s'.pending = none) ∧
    (outcome = .ok () ↔ 8 ≤ S.length ∧ S[0]? = some 0 ∧ S[1]? = some 0x5A) ∧
    (∀ n, outcome = .error (.connectRejected n) ↔
      8 ≤ S.length ∧ S[0]? = some 0 ∧ ∃ c, S[1]? = some c ∧ c ≠ 0x5A ∧ c.toNat = n) ∧
    (∀ v, outcome = .error (.invalidSocks4ReplyVersion v) ↔
      8 ≤ S.length ∧ S[0]? = some v ∧ v ≠ 0) ∧
    (outcome = .error .streamTruncated ↔ S.length < 8) ∧
    s'.consumed = s.consumed + min 8 S.length ∧ s'.Says (S.drop 8) := by
  have hlayout := layout_toBytes hb
  have hid : 0 ∉ userId := (eq_of_build hb).1
  rcases Nat.lt_or_ge S.length 8 with hshort | hlong
  · obtain ⟨rfl, hsays, hl⟩ := handshakeSocks4_short hb hp hshort hs hrun
    have hnot : ¬8 ≤ S.length := Nat.not_le.mpr hshort
    refine ⟨⟨_, hlayout, hid, request.length_toBytes, congrArg Ledger.sent hl,
      congrArg Ledger.pending hl⟩, ?_, fun n => ?_, fun v => ?_, ?_, ?_, ?_⟩
    · exact ⟨nofun, fun h => absurd h.1 hnot⟩
    · exact ⟨nofun, fun h => absurd h.1 hnot⟩
    · exact ⟨nofun, fun h => absurd h.1 hnot⟩
    · exact ⟨fun _ => hshort, fun _ => rfl⟩
    · rw [Nat.min_eq_right (Nat.le_of_lt hshort)]
      exact congrArg Ledger.consumed hl
    · rw [List.drop_of_length_le (Nat.le_of_lt hshort)]
      exact hsays
  · obtain ⟨v, c, six, rest, hsix, rfl⟩ := exists_reply hlong
    obtain ⟨rfl, hsays, hl⟩ := handshakeSocks4_replied hb hp hsix hs hrun
    have hiff (r : Except HandshakeError Unit) :
        Outcome.ofExcept (decision v c) = .ofExcept r ↔ decision v c = r :=
      ⟨Outcome.ofExcept_inj, congrArg _⟩
    have hfirst : (v :: c :: six ++ rest)[0]? = some v := rfl
    have hsecond : (v :: c :: six ++ rest)[1]? = some c := rfl
    rw [hfirst, hsecond]
    refine ⟨⟨_, hlayout, hid, request.length_toBytes, congrArg Ledger.sent hl,
      congrArg Ledger.pending hl⟩, ?_, fun n => ?_, fun version => ?_, ?_, ?_, ?_⟩
    · refine (hiff (.ok ())).trans (decision_eq_ok.trans ?_)
      simp only [hlong, Option.some.injEq, true_and]
    · refine (hiff (.error _)).trans (decision_eq_connectRejected.trans ?_)
      simp only [hlong, Option.some.injEq, true_and, exists_eq_left']
    · refine (hiff (.error _)).trans (decision_eq_invalidVersion.trans ?_)
      simp only [hlong, Option.some.injEq, true_and]
    · refine (hiff (.error _)).trans ⟨fun h => absurd h (decision_ne_truncated v c), fun h => ?_⟩
      exact absurd hlong (Nat.not_le.mpr h)
    · rw [Nat.min_eq_left hlong]
      exact congrArg Ledger.consumed hl
    · rw [List.drop_left' (by rw [List.length_cons, List.length_cons, hsix])]
      exact hsays

end

/-- A server that grants a named target in two pieces, with a first byte of the tunnel behind. -/
theorem handshakeSocks4_spec_granted :
    let s : Script := { items := [.data [0, 0x5A, 0], .data [0, 0, 0, 0, 0, 42]] }
    let run := (handshakeSocks4 (.domain "example.org" 80) [117]).run 0 s
    run.1 = .ok () ∧ run.2.consumed = 8 ∧ run.2.Says [42] := by
  intro s run
  have hb : Request.build (.domain "example.org" 80) [117] =
      .ok ⟨.host "example.org", 80, [117]⟩ := by
    rfl
  have hs : s.Says ([0, 0x5A, 0] ++ ([0, 0, 0, 0, 0, 42] ++ [])) :=
    ⟨.data _ (.data _ .nil), by decide, rfl, rfl⟩
  obtain ⟨-, hok, -, -, -, hconsumed, hsays⟩ := handshakeSocks4_spec hb hs rfl (Prod.eta run).symm
  exact ⟨hok.mpr (by decide), hconsumed, hsays⟩

end Socks4

end ProxyTunnel
