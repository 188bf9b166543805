import ProxyTunnel.Proofs.Handshake.Orderly

/-!
# The SOCKS5 handshake on a stream

Everything that a server may say to the handshake (`Verdict`): how it lets the client ask
(`Opening`), and a reply behind that (`Answer`), or what else ends the handshake early. Credential
and target have passed the checks that come first; what they became are `login` and `destination`.

* `hears_handshakeSocks5`: the handshake hears exactly the verdicts, and these are its messages;
* `run_of_verdict`, `run_of_no_verdict`: so on a stream in any pieces it stops right behind a
  verdict, and without one it reads all there is and finds the end of the stream;
* `handshakeSocks5_spec`: what this says of each result.
-/

namespace ProxyTunnel

open Conversation Socks

variable {l l' : Ledger} {heard : Bytes}

namespace Socks5

/-- The greeting: a second method is offered only with a login. -/
def greeting : Option Login → Bytes
  | none => [5, 1, 0]
  | some _ => [5, 2, 0, 2]

theorem toBytes_offeredMethods (login : Option Login) :
    (Greeting.ofMethods (offeredMethods login)).toBytes = greeting login := by
  have hsort : [(0 : UInt8), 2].mergeSort = [0, 2] := List.mergeSort_of_pairwise (by decide)
  cases login <;>
    simp [Greeting.toBytes, Greeting.ofMethods, offeredMethods, Method.distinct, Method.code,
      Version.code, greeting, hsort]

/-- How a server lets the client ask: what it says, and the messages of the client up to then on a
stream of which `start` bytes were read before. -/
inductive Opening (login : Option Login) (start : Nat) : Bytes → List Message → Prop where
  | free : Opening login start [5, 0] [⟨start, greeting login⟩]
  | loggedIn {x : Login} (h : login = some x) :
    Opening login start [5, 2, 1, 0] [⟨start, greeting login⟩, ⟨start + 2, x.toBytes⟩]

/-- What a handshake makes of a reply. -/
def decision : Except SocksError Reply → Except HandshakeError Endpoint
  | .error e => .error (.ofSocks e)
  | .ok reply =>
    if reply.field = .success then .ok reply.bound.endpoint
    else .error (.connectRejected reply.field.code.toNat)

/-- What a server says in a whole handshake, what the handshake makes of it, and the messages of the
client. -/
inductive Verdict (login : Option Login) (destination : Address) (start : Nat) :
    Bytes → Except HandshakeError Endpoint → List Message → Prop where
  | wrongVersion {v : UInt8} (h : v ≠ 5) (m : UInt8) :
    Verdict login destination start [v, m] (.error (.invalidSocksVersion v))
      [⟨start, greeting login⟩]
  | unsupported {m : UInt8} (h : m ≠ 0 ∧ m ≠ 2) :
    Verdict login destination start [5, m] (.error (.unsupportedSocksMethod (.ofCode m)))
      [⟨start, greeting login⟩]
  | noCredential (h : login = none) :
    Verdict login destination start [5, 2] (.error .authenticationRequired)
      [⟨start, greeting login⟩]
  | declined {x : Login} (h : login = some x) {v st : UInt8} (hv : ¬(v = 1 ∧ st = 0)) :
    Verdict login destination start [5, 2, v, st] (.error (.authenticationRejected v st))
      [⟨start, greeting login⟩, ⟨start + 2, x.toBytes⟩]
  | answered {opening answer : Bytes} {said : List Message} {reply : Except SocksError Reply}
    (ho : Opening login start opening said) (ha : Answer answer reply) :
    Verdict login destination start (opening ++ answer) (decision reply)
      (said ++ [⟨start + opening.length, (Request.mk destination).toBytes⟩])

/-- The last part of a handshake. -/
def ask (destination : Address) : Conversation HandshakeError Endpoint := do
  send (Request.mk destination).toBytes
  let reply ← ofSocks Reply.receive
  match reply.field with
  | .success => pure reply.bound.endpoint
  | field => .fail (.connectRejected field.code.toNat)

theorem handshakeSocks5_eq {target : Endpoint} {credential : Option Credential}
    {login : Option Login} {destination : Address}
    (hl : credential.mapM Login.ofCredential = .ok login)
    (hd : Address.ofEndpoint target = .ok destination) :
    handshakeSocks5 target credential = (do
      send (greeting login)
      let selection ← ofSocks Selection.receive
      authenticate login selection.method
      ask destination) := by
  rw [handshakeSocks5, hl, hd, ← toBytes_offeredMethods]
  rfl

theorem ask_eq (destination : Address) :
    ask destination = (do
      send (Request.mk destination).toBytes
      let reply ← ofSocks Reply.receive
      ofExcept (decision (.ok reply))) := by
  rw [ask]
  congr 2
  funext _
  congr 1
  funext ⟨field, bound⟩
  cases field <;> rfl

theorem hears_ask {destination : Address} {r : Except HandshakeError Endpoint} :
    (ask destination).Hears l heard r l' ↔
      ∃ reply, Answer heard reply ∧ r = decision reply ∧
        l' = (l.say (Request.mk destination).toBytes).read heard.length := by
  rw [ask_eq, hears_send_bind, hears_ofSocks_bind]
  simp only [hears_reply, hears_ofExcept]
  constructor
  · intro h
    obtain ⟨e, rfl, ha, rfl⟩ | ⟨reply, answer, _, _, rfl, ⟨ha, rfl⟩, rfl, rfl, rfl⟩ := h
    · exact ⟨_, ha, rfl, rfl⟩
    · rw [List.append_nil]
      exact ⟨_, ha, rfl, rfl⟩
  · intro h
    obtain ⟨reply, ha, rfl, rfl⟩ := h
    cases reply with
    | error e => exact .inl ⟨e, rfl, ha, rfl⟩
    | ok reply =>
      exact .inr ⟨reply, heard, [], _, (List.append_nil _).symm, ⟨ha, rfl⟩, rfl, rfl, rfl⟩

/-- The server may select any method but the two that are known. -/
theorem authenticate_unsupported {m : UInt8} (h : m ≠ 0 ∧ m ≠ 2) (login : Option Login) :
    authenticate login (.ofCode m) = .fail (.unsupportedSocksMethod (.ofCode m)) := by
  unfold Method.ofCode
  split <;> simp_all [authenticate]

theorem authenticate_login_bind {α : Type} (x : Login) (k : Unit → Conversation HandshakeError α) :
    authenticate (some x) .userPassword >>= k = (do
      send x.toBytes
      let reply ← ofSocks LoginReply.receive
      (if reply.version = 1 ∧ reply.status = 0 then pure ()
        else .fail (.authenticationRejected reply.version reply.status)) >>= k) := by
  simp only [authenticate, LoginReply.isSuccess, Bool.and_eq_true, decide_eq_true_eq]
  rfl

theorem hears_login_bind {α : Type} {x : Login} {k : Unit → Conversation HandshakeError α}
    {r : Except HandshakeError α} :
    (authenticate (some x) .userPassword >>= k).Hears l heard r l' ↔
      ∃ v st rest, heard = [v, st] ++ rest ∧
        ((if v = 1 ∧ st = 0 then pure () else .fail (.authenticationRejected v st)) >>= k).Hears
          ((l.say x.toBytes).read 2) rest r l' := by
  rw [authenticate_login_bind, hears_send_bind, hears_ofSocks_bind]
  simp only [hears_loginReply]
  constructor
  · intro h
    obtain ⟨_, _, _, _, _, h, _⟩ | ⟨_, _, rest, _, rfl, ⟨v, st, rfl, h, rfl⟩, hk⟩ := h <;> cases h
    exact ⟨v, st, rest, rfl, hk⟩
  · intro h
    obtain ⟨v, st, rest, rfl, hk⟩ := h
    exact .inr ⟨_, [v, st], rest, _, rfl, ⟨v, st, rfl, rfl, rfl⟩, hk⟩

/-- A ledger on which nothing waits for a flush. -/
theorem ledger_say (n : Nat) (sent : List Message) {bs : Bytes} (hb : bs ≠ []) :
    (⟨n, sent, none⟩ : Ledger).say bs = ⟨n, sent ++ [⟨n, bs⟩], none⟩ :=
  Ledger.say_of_settled rfl hb

theorem greeting_ne_nil (login : Option Login) : greeting login ≠ [] := by
  cases login <;> exact List.cons_ne_nil _ _

/-- The handshake behind an opening. -/
theorem hears_ask_opened {destination : Address} {n : Nat} {sent : List Message}
    {r : Except HandshakeError Endpoint} :
    (ask destination).Hears ⟨n, sent, none⟩ heard r l' ↔
      ∃ reply, Answer heard reply ∧ r = decision reply ∧
        l' = ⟨n + heard.length, sent ++ [⟨n, (Request.mk destination).toBytes⟩], none⟩ := by
  have hne : (Request.mk destination).toBytes ≠ [] := List.cons_ne_nil _ _
  rw [hears_ask, ledger_say n sent hne]
  rfl

/-- The handshake behind the choice of user name and password. -/
theorem hears_login_opened {x : Login} {destination : Address} {n : Nat} {sent : List Message}
    {r : Except HandshakeError Endpoint} :
    (authenticate (some x) .userPassword >>= fun _ => ask destination).Hears
        ⟨n, sent, none⟩ heard r l' ↔
      (∃ v st, ¬(v = 1 ∧ st = 0) ∧ heard = [v, st] ∧ r = .error (.authenticationRejected v st) ∧
        l' = ⟨n + 2, sent ++ [⟨n, x.toBytes⟩], none⟩) ∨
      ∃ answer reply, heard = [1, 0] ++ answer ∧ Answer answer reply ∧ r = decision reply ∧
        l' = ⟨n + 2 + answer.length,
          sent ++ [⟨n, x.toBytes⟩] ++ [⟨n + 2, (Request.mk destination).toBytes⟩], none⟩ := by
  have hne : x.toBytes ≠ [] := List.cons_ne_nil _ _
  rw [hears_login_bind, ledger_say n sent hne]
  constructor
  · intro h
    obtain ⟨v, st, rest, rfl, h⟩ := h
    split at h
    · rename_i hv
      obtain ⟨rfl, rfl⟩ := hv
      obtain ⟨reply, ha, rfl, rfl⟩ := hears_ask_opened.mp h
      exact .inr ⟨rest, reply, rfl, ha, rfl, rfl⟩
    · rename_i hv
      obtain ⟨rfl, rfl, rfl⟩ := h
      exact .inl ⟨v, st, hv, rfl, rfl, rfl⟩
  · intro h
    obtain ⟨v, st, hv, rfl, rfl, rfl⟩ | ⟨answer, reply, rfl, ha, rfl, rfl⟩ := h
    · refine ⟨v, st, [], rfl, ?_⟩
      rw [if_neg hv]
      exact ⟨rfl, rfl, rfl⟩
    · refine ⟨1, 0, answer, rfl, ?_⟩
      rw [if_pos ⟨rfl, rfl⟩]
      exact hears_ask_opened.mpr ⟨reply, ha, rfl, rfl⟩

theorem ledger_answered (n k m : Nat) (sent said : List Message) (request : Bytes) :
    (⟨n + k + m, sent ++ said ++ [⟨n + k, request⟩], none⟩ : Ledger) =
      ⟨n + (k + m), sent ++ (said ++ [⟨n + k, request⟩]), none⟩ := by
  rw [Nat.add_assoc, List.append_assoc]

theorem hears_handshakeSocks5 {target : Endpoint} {credential : Option Credential}
    {login : Option Login} {destination : Address}
    (hl : credential.mapM Login.ofCredential = .ok login)
    (hd : Address.ofEndpoint target = .ok destination)
    {n : Nat} {sent : List Message} {r : Except HandshakeError Endpoint} :
    (handshakeSocks5 target credential).Hears ⟨n, sent, none⟩ heard r l' ↔
      ∃ said, Verdict login destination n heard r said ∧
        l' = ⟨n + heard.length, sent ++ said, none⟩ := by
  rw [handshakeSocks5_eq hl hd, hears_send_bind, hears_ofSocks_bind,
    ledger_say n sent (greeting_ne_nil login)]
  simp only [hears_selection]
  constructor
  · intro h
    obtain ⟨e, rfl, v, m, rfl, rfl, he⟩ | ⟨_, _, rest, _, rfl, ⟨v, m, rfl, rfl, hs⟩, h⟩ := h
    · split at he <;> cases he
      exact ⟨_, .wrongVersion ‹_› m, rfl⟩
    · split at hs <;> cases hs
      subst v
      by_cases h₀ : m = 0
      · subst h₀
        obtain ⟨reply, ha, rfl, rfl⟩ := hears_ask_opened.mp h
        refine ⟨_, .answered .free ha, ?_⟩
        rw [List.length_append]
        exact ledger_answered n 2 rest.length sent [_] _
      by_cases h₂ : m = 2
      · subst h₂
        cases login with
        | none =>
          obtain ⟨rfl, rfl, rfl⟩ := h
          exact ⟨_, .noCredential rfl, rfl⟩
        | some x =>
          obtain ⟨v, st, hv, rfl, rfl, rfl⟩ | ⟨answer, reply, rfl, ha, rfl, rfl⟩ :=
            hears_login_opened.mp h
          · refine ⟨_, .declined rfl hv, ?_⟩
            rw [List.append_assoc]; rfl
          · rw [← List.append_assoc, List.length_append]
            refine ⟨_, .answered (.loggedIn rfl) ha, ?_⟩
            rw [List.append_assoc sent]
            exact ledger_answered n 4 answer.length sent [_, _] _
      · rw [authenticate_unsupported ⟨h₀, h₂⟩] at h
        obtain ⟨rfl, rfl, rfl⟩ := h
        exact ⟨_, .unsupported ⟨h₀, h₂⟩, rfl⟩
  · intro h
    obtain ⟨said, h, rfl⟩ := h
    cases h with
    | wrongVersion hv m => exact .inl ⟨_, rfl, _, m, rfl, rfl, by rw [if_neg hv]⟩
    | unsupported hm =>
      refine .inr ⟨⟨.ofCode _⟩, [5, _], [], _, rfl, ⟨5, _, rfl, rfl, rfl⟩, ?_⟩
      rw [authenticate_unsupported hm]
      exact ⟨rfl, rfl, rfl⟩
    | noCredential h =>
      subst h
      exact .inr ⟨⟨.userPassword⟩, [5, 2], [], _, rfl, ⟨5, 2, rfl, rfl, rfl⟩, rfl, rfl, rfl⟩
    | @declined x h v st hv =>
      subst h
      refine .inr ⟨⟨.userPassword⟩, [5, 2], [v, st], _, rfl, ⟨5, 2, rfl, rfl, rfl⟩, ?_⟩
      refine hears_login_opened.mpr (.inl ⟨v, st, hv, rfl, rfl, ?_⟩)
      rw [List.append_assoc]; rfl
    | @answered opening answer said reply ho ha =>
      cases ho with
      | free =>
        refine .inr ⟨⟨.noAuthentication⟩, [5, 0], answer, _, rfl, ⟨5, 0, rfl, rfl, rfl⟩, ?_⟩
        refine hears_ask_opened.mpr ⟨reply, ha, rfl, ?_⟩
        rw [List.length_append]
        exact (ledger_answered n 2 answer.length sent [_] _).symm
      | @loggedIn x h =>
        subst h
        refine .inr ⟨⟨.userPassword⟩, [5, 2], [1, 0] ++ answer, _, rfl, ⟨5, 2, rfl, rfl, rfl⟩, ?_⟩
        refine hears_login_opened.mpr (.inr ⟨answer, reply, rfl, ha, rfl, ?_⟩)
        rw [List.length_append, List.append_assoc sent]
        exact (ledger_answered n 4 answer.length sent [_, _] _).symm

/-- A whole reply with the code `c` and the address block of `bound`. -/
def IsReply (c : UInt8) (bound : Endpoint) (answer : Bytes) : Prop :=
  ∃ rsv block, Address.Block block bound ∧ answer = [5, c, rsv] ++ block

theorem ReplyField.ofCode_eq_success {c : UInt8} : ReplyField.ofCode c = .success ↔ c = 0 := by
  constructor
  · intro h
    rw [← ReplyField.code_ofCode c, h]; rfl
  · rintro rfl
    rfl

theorem decision_eq_ok {answer : Bytes} {b : Endpoint} :
    (∃ reply, Answer answer reply ∧ decision reply = .ok b) ↔ IsReply 0 b answer := by
  constructor
  · intro h
    obtain ⟨reply, ha, h⟩ := h
    cases ha with
    | wrongVersion | wrongType => cases h
    | reply c rsv hb =>
      rw [decision] at h
      split at h <;> cases h
      rename_i hc
      obtain rfl := ReplyField.ofCode_eq_success.mp hc
      exact ⟨rsv, _, hb, rfl⟩
  · intro h
    obtain ⟨rsv, block, hb, rfl⟩ := h
    exact ⟨_, .reply 0 rsv hb, rfl⟩

theorem decision_eq_connectRejected {answer : Bytes} {n : Nat} :
    (∃ reply, Answer answer reply ∧ decision reply = .error (.connectRejected n)) ↔
      ∃ c b, c ≠ 0 ∧ c.toNat = n ∧ IsReply c b answer := by
  constructor
  · intro h
    obtain ⟨reply, ha, h⟩ := h
    cases ha with
    | wrongVersion | wrongType => cases h
    | reply c rsv hb =>
      rw [decision] at h
      split at h <;> cases h
      rename_i hc
      refine ⟨c, _, fun h₀ => hc (ReplyField.ofCode_eq_success.mpr h₀), ?_, rsv, _, hb, rfl⟩
      rw [ReplyField.code_ofCode]
  · intro h
    obtain ⟨c, b, hc, rfl, rsv, block, hb, rfl⟩ := h
    refine ⟨_, .reply c rsv hb, ?_⟩
    rw [decision, if_neg (fun h => hc (ReplyField.ofCode_eq_success.mp h)), ReplyField.code_ofCode]

/-! ## Verdicts by result -/

section

variable {login : Option Login} {destination : Address} {start : Nat} {said : List Message}

theorem Verdict.ok {b : Endpoint} (h : Verdict login destination start heard (.ok b) said) :
    ∃ opening before answer, Opening login start opening before ∧ IsReply 0 b answer ∧
      heard = opening ++ answer := by
  generalize hr : Except.ok b = r at h
  cases h with
  | answered ho ha => exact ⟨_, _, _, ho, decision_eq_ok.mp ⟨_, ha, hr.symm⟩, rfl⟩
  | _ => cases hr

theorem Verdict.connectRejected {n : Nat}
    (h : Verdict login destination start heard (.error (.connectRejected n)) said) :
    ∃ c b opening before answer, c ≠ 0 ∧ c.toNat = n ∧ Opening login start opening before ∧
      IsReply c b answer ∧ heard = opening ++ answer := by
  generalize hr : Except.error (HandshakeError.connectRejected n) = r at h
  cases h with
  | answered ho ha =>
    obtain ⟨c, b, hc, hn, ha⟩ := decision_eq_connectRejected.mp ⟨_, ha, hr.symm⟩
    exact ⟨c, b, _, _, _, hc, hn, ho, ha, rfl⟩
  | _ => cases hr

/-- The errors that a reply can lead to. -/
theorem decision_eq_error {answer : Bytes} {reply : Except SocksError Reply} {e : HandshakeError}
    (ha : Answer answer reply) (h : decision reply = .error e) :
    e.kind = .protocolViolation ∨ e.kind = .connectRejected := by
  cases ha with
  | wrongVersion | wrongType => cases h; exact .inl rfl
  | reply c rsv hb =>
    rw [decision] at h
    split at h <;> cases h
    exact .inr rfl

theorem Verdict.authenticationRequired
    (h : Verdict login destination start heard (.error .authenticationRequired) said) :
    login = none ∧ heard = [5, 2] := by
  generalize hr : Except.error HandshakeError.authenticationRequired = r at h
  cases h with
  | noCredential h => exact ⟨h, rfl⟩
  | answered ho ha => exact absurd (decision_eq_error ha hr.symm) (by decide)
  | _ => cases hr

theorem Verdict.authenticationRejected {v st : UInt8}
    (h : Verdict login destination start heard (.error (.authenticationRejected v st)) said) :
    login ≠ none ∧ ¬(v = 1 ∧ st = 0) ∧ heard = [5, 2, v, st] := by
  generalize hr : Except.error (HandshakeError.authenticationRejected v st) = r at h
  cases h with
  | declined h hv =>
    cases hr
    exact ⟨by rw [h]; exact Option.some_ne_none _, hv, rfl⟩
  | answered ho ha =>
    rcases decision_eq_error ha hr.symm with h | h <;> cases h
  | _ => cases hr

theorem Verdict.ne_truncated {r : Except HandshakeError Endpoint}
    (h : Verdict login destination start heard r said) : r ≠ .error .streamTruncated := by
  intro hr
  cases h with
  | answered ho ha => exact absurd (decision_eq_error ha hr) (by decide)
  | _ => cases hr

end

/-! ## Runs -/

section

variable {target : Endpoint} {credential : Option Credential} {login : Option Login}
  {destination : Address} {s : Script} {S : Bytes}

/-- On a stream that ends, the results other than that it ended are the verdicts. -/
theorem run_eq_iff_verdict (hl : credential.mapM Login.ofCredential = .ok login)
    (hd : Address.ofEndpoint target = .ok destination) (hs : s.Says S) (hp : s.pending = none)
    {r : Except HandshakeError Endpoint} (hr : r ≠ .error .streamTruncated) :
    ((handshakeSocks5 target credential).run 0 s).1 = .ofExcept r ↔
      ∃ heard rest said, S = heard ++ rest ∧ Verdict login destination s.consumed heard r said := by
  have hends := (orderly_handshakeSocks5 target credential).endsWith
  rw [run_eq_iff hends hs fun e he h => hr (by rw [he, h]),
    Script.ledger_of_settled hp]
  simp only [hears_handshakeSocks5 hl hd]
  constructor
  · intro h
    obtain ⟨heard, rest, _, rfl, said, h, rfl⟩ := h
    exact ⟨heard, rest, said, rfl, h⟩
  · intro h
    obtain ⟨heard, rest, said, rfl, h⟩ := h
    exact ⟨heard, rest, _, rfl, said, h, rfl⟩

/-- Every verdict ends the handshake right behind it, and nothing but the messages due is sent. -/
theorem run_of_verdict (hl : credential.mapM Login.ofCredential = .ok login)
    (hd : Address.ofEndpoint target = .ok destination) (hp : s.pending = none)
    {rest : Bytes} (hs : s.Says (heard ++ rest))
    {r : Except HandshakeError Endpoint} {said : List Message}
    (h : Verdict login destination s.consumed heard r said) :
    ((handshakeSocks5 target credential).run 0 s).1 = .ofExcept r ∧
      ((handshakeSocks5 target credential).run 0 s).2.Says rest ∧
      ((handshakeSocks5 target credential).run 0 s).2.ledger =
        ⟨s.consumed + heard.length, s.sent ++ said, none⟩ := by
  refine Hears.run hs ?_
  rw [Script.ledger_of_settled hp]
  exact (hears_handshakeSocks5 hl hd).mpr ⟨said, h, rfl⟩

/-- A handshake that gets no verdict has read all there is. -/
theorem run_of_no_verdict (hl : credential.mapM Login.ofCredential = .ok login)
    (hd : Address.ofEndpoint target = .ok destination) (hs : s.Says S) (hp : s.pending = none)
    (h : ∀ heard rest r said, S = heard ++ rest →
      ¬Verdict login destination s.consumed heard r said) :
    ((handshakeSocks5 target credential).run 0 s).1 = .error .streamTruncated ∧
      ((handshakeSocks5 target credential).run 0 s).2.Says [] ∧
      ((handshakeSocks5 target credential).run 0 s).2.consumed = s.consumed + S.length := by
  rcases hears_or_ends (orderly_handshakeSocks5 target credential).endsWith hs with
    ⟨heard, rest, r, l', rfl, hh⟩ | ⟨⟨_, rfl, he⟩, hs', hc⟩
  · rw [Script.ledger_of_settled hp] at hh
    obtain ⟨said, hv, -⟩ := (hears_handshakeSocks5 hl hd).mp hh
    exact absurd hv (h heard rest r said rfl)
  · exact ⟨he, hs', hc⟩

/-- The SOCKS5 handshake accepts exactly the grammar of replies, tells refusals apart, and stops
right behind what decides. -/
theorem handshakeSocks5_spec (hl : credential.mapM Login.ofCredential = .ok login)
    (hd : Address.ofEndpoint target = .ok destination) (hs : s.Says S) (hp : s.pending = none)
    {outcome : Outcome HandshakeError Endpoint} {s' : Script}
    (hrun : (handshakeSocks5 target credential).run 0 s = (outcome, s')) :
    (∀ b, outcome = .ok b ↔ ∃ opening said answer rest,
      Opening login s.consumed opening said ∧ IsReply 0 b answer ∧
        S = opening ++ answer ++ rest) ∧
    (∀ n, outcome = .error (.connectRejected n) ↔ ∃ c b opening said answer rest,
      c ≠ 0 ∧ c.toNat = n ∧ Opening login s.consumed opening said ∧ IsReply c b answer ∧
        S = opening ++ answer ++ rest) ∧
    (outcome = .error .authenticationRequired ↔ login = none ∧ ∃ rest, S = [5, 2] ++ rest) ∧
    (∀ v st, outcome = .error (.authenticationRejected v st) ↔
      login ≠ none ∧ ¬(v = 1 ∧ st = 0) ∧ ∃ rest, S = [5, 2, v, st] ++ rest) ∧
    (outcome = .error .streamTruncated ↔ ∀ heard rest r said, S = heard ++ rest →
      ¬Verdict login destination s.consumed heard r said) ∧
    (outcome = .error .streamTruncated → s'.Says [] ∧ s'.consumed = s.consumed + S.length) ∧
    (∀ heard rest r said, S = heard ++ rest → Verdict login destination s.consumed heard r said →
      outcome = .ofExcept r ∧ s'.Says rest ∧ s'.consumed = s.consumed + heard.length ∧
        s'.sent = s.sent ++ said ∧ s'.pending = none) := by
  obtain rfl : ((handshakeSocks5 target credential).run 0 s).1 = outcome := by rw [hrun]
  obtain rfl : ((handshakeSocks5 target credential).run 0 s).2 = s' := by rw [hrun]
  clear hrun
  have hnone : ((handshakeSocks5 target credential).run 0 s).1 = .error .streamTruncated →
      ∀ heard rest r said, S = heard ++ rest →
        ¬Verdict login destination s.consumed heard r said := by
    rintro he heard rest r said rfl h
    exact h.ne_truncated (Outcome.ofExcept_inj ((run_of_verdict hl hd hp hs h).1.symm.trans he))
  refine ⟨fun b => ?_, fun n => ?_, ?_, fun v st => ?_, ?_, ?_, ?_⟩
  · show _ = Outcome.ofExcept (.ok b) ↔ _
    rw [run_eq_iff_verdict hl hd hs hp (by rintro ⟨⟩)]
    constructor
    · intro h
      obtain ⟨heard, rest, said, rfl, h⟩ := h
      obtain ⟨opening, before, answer, ho, ha, rfl⟩ := h.ok
      exact ⟨opening, before, answer, rest, ho, ha, rfl⟩
    · intro h
      obtain ⟨opening, said, answer, rest, ho, ha, rfl⟩ := h
      obtain ⟨reply, ha, hr⟩ := decision_eq_ok.mpr ha
      have hv : Verdict login destination s.consumed _ _ _ := .answered ho ha
      rw [hr] at hv
      exact ⟨_, rest, _, rfl, hv⟩
  · show _ = Outcome.ofExcept (.error _) ↔ _
    rw [run_eq_iff_verdict hl hd hs hp (by rintro ⟨⟩)]
    constructor
    · intro h
      obtain ⟨heard, rest, said, rfl, h⟩ := h
      obtain ⟨c, b, opening, before, answer, hc, hn, ho, ha, rfl⟩ := h.connectRejected
      exact ⟨c, b, opening, before, answer, rest, hc, hn, ho, ha, rfl⟩
    · intro h
      obtain ⟨c, b, opening, said, answer, rest, hc, hn, ho, ha, rfl⟩ := h
      obtain ⟨reply, ha, hr⟩ := decision_eq_connectRejected.mpr ⟨c, b, hc, hn, ha⟩
      have hv : Verdict login destination s.consumed _ _ _ := .answered ho ha
      rw [hr] at hv
      exact ⟨_, rest, _, rfl, hv⟩
  · show _ = Outcome.ofExcept (.error _) ↔ _
    rw [run_eq_iff_verdict hl hd hs hp (by rintro ⟨⟩)]
    constructor
    · intro h
      obtain ⟨heard, rest, said, rfl, h⟩ := h
      obtain ⟨hn, rfl⟩ := h.authenticationRequired
      exact ⟨hn, rest, rfl⟩
    · intro h
      obtain ⟨hn, rest, rfl⟩ := h
      exact ⟨_, rest, _, rfl, .noCredential hn⟩
  · show _ = Outcome.ofExcept (.error _) ↔ _
    rw [run_eq_iff_verdict hl hd hs hp (by rintro ⟨⟩)]
    constructor
    · intro h
      obtain ⟨heard, rest, said, rfl, h⟩ := h
      obtain ⟨hn, hv, rfl⟩ := h.authenticationRejected
      exact ⟨hn, hv, rest, rfl⟩
    · intro h
      obtain ⟨hn, hv, rest, rfl⟩ := h
      obtain ⟨x, hx⟩ := Option.ne_none_iff_exists'.mp hn
      exact ⟨_, rest, _, rfl, .declined hx hv⟩
  · exact ⟨hnone, fun h => (run_of_no_verdict hl hd hs hp h).1⟩
  · intro he
    exact (run_of_no_verdict hl hd hs hp (hnone he)).2
  · rintro heard rest r said rfl h
    obtain ⟨h₁, h₂, h₃⟩ := run_of_verdict hl hd hp hs h
    exact ⟨h₁, h₂, congrArg Ledger.consumed h₃, congrArg Ledger.sent h₃,
      congrArg Ledger.pending h₃⟩

/-- A server that lets the client in without a login, and whose tunnel has a first byte already. -/
theorem handshakeSocks5_spec_free :
    let s : Script := { items := [.data [5, 0, 5, 0], .data [0, 1, 10, 0, 0, 1, 0, 80, 42]] }
    let run := (handshakeSocks5 (.domain "example.org" 80) none).run 0 s
    run.1 = .ok (.socket (.v4 ⟨10, 0, 0, 1⟩ 80)) := by
  intro s run
  have hd : Address.ofEndpoint (.domain "example.org" 80) = .ok ⟨.domain "example.org" 80⟩ := by
    rfl
  have hs : s.Says ([5, 0, 5, 0] ++ ([0, 1, 10, 0, 0, 1, 0, 80, 42] ++ [])) :=
    ⟨.data _ (.data _ .nil), by decide, rfl, rfl⟩
  refine ((handshakeSocks5_spec rfl hd hs rfl rfl).1 _).mpr
    ⟨_, _, [5, 0, 0, 1, 10, 0, 0, 1, 0, 80], [42], .free, ⟨0, _, ?_, rfl⟩, rfl⟩
  exact .mk (.ipv4 ⟨10, 0, 0, 1⟩ 80)

end

end Socks5

end ProxyTunnel
