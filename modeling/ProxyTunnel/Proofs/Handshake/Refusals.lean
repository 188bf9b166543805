import ProxyTunnel.Proofs.Handshake.Http
import ProxyTunnel.Proofs.Handshake.Socks5
import ProxyTunnel.Proofs.Handshake.Upfront
import ProxyTunnel.Proofs.Http.Request
import ProxyTunnel.Proofs.Socks.Version5
import ProxyTunnel.Proofs.Stream.Recorder

/-!
# Which calls are refused, and how the other ones begin

A call asks for a tunnel by one of the protocols. Some of what it is given can not be said there
(`Call.objections`, in the order in which it is looked at). A call is refused for its first
objection before anything is done on the stream, and for that alone. One without objections begins
by writing its first message (`Begins`), and whatever else goes wrong shows as an error of another
kind.

* `Call.starts`: a call is refused at once or opens with a message;
* `begins_run`: a run of what opens with a message begins by writing all of it;
* `Call.refused_iff`: both, on every stream.
-/

namespace ProxyTunnel

open Conversation Text
open HandshakeError (IsLocal)

/-! ## Beginning with a message -/

/-- The operations begin by writing a message: each is a write of all that is left of it, until all
is taken. A write that fails, takes nothing or never gets ready is the last operation. -/
inductive Begins : Bytes → List Event → Prop where
  | broken {m : Bytes} {taken : Outcome Fault Nat} (h : (Event.write m taken).goesOn = false) :
    Begins m [.write m taken]
  | part {m : Bytes} {n : Nat} {events : List Event} (hn : 0 < n) (h : n < m.length)
    (rest : Begins (m.drop n) events) : Begins m (.write m (.ok n) :: events)
  | whole {m : Bytes} {n : Nat} {events : List Event} (h : m.length ≤ n) :
    Begins m (.write m (.ok n) :: events)

theorem Begins.ne_nil {m : Bytes} {events : List Event} (h : Begins m events) : events ≠ [] := by
  cases h <;> exact List.cons_ne_nil _ _

/-- Nothing is read before all of the message was taken. -/
theorem Begins.before_read {m : Bytes} {before after : List Event} {got : Outcome Fault Bytes}
    (h : Begins m (before ++ .read got :: after)) : m <+: before.flatMap Event.put := by
  generalize hevents : before ++ .read got :: after = events at h
  induction h generalizing before with
  | broken _ =>
    cases before with
    | nil => cases hevents
    | cons e before => simp at hevents
  | @part m n events _ _ _ ih =>
    cases before with
    | nil => cases hevents
    | cons e before =>
      rw [List.cons_append] at hevents
      obtain ⟨rfl, htail⟩ := List.cons.inj hevents
      obtain ⟨more, hmore⟩ := ih htail
      refine ⟨more, ?_⟩
      rw [List.flatMap_cons, ← hmore, Event.put, ← List.append_assoc, List.take_append_drop]
  | @whole m n events h =>
    cases before with
    | nil => cases hevents
    | cons e before =>
      rw [List.cons_append] at hevents
      obtain ⟨rfl, -⟩ := List.cons.inj hevents
      rw [List.flatMap_cons, Event.put, List.take_of_length_le h]
      exact List.prefix_append _ _

/-- Writing all of a message is a beginning, behind which anything may come if it succeeds. -/
theorem begins_acceptAll {m : Bytes} (hm : m ≠ []) {fuel : Nat} (hfuel : m.length ≤ fuel)
    (r : Recorder) :
    ∃ events, (Carrier.acceptAll 0 fuel m r).2.events = r.events ++ events ∧ Begins m events ∧
      ((Carrier.acceptAll 0 fuel m r).1 = .ok () → ∀ rest, Begins m (events ++ rest)) := by
  induction fuel generalizing m r with
  | zero => exact absurd (List.eq_nil_of_length_eq_zero (by omega)) hm
  | succ fuel ih =>
    have haccept : Carrier.accept 0 m r =
        ((Carrier.accept 0 m r.script).1, ⟨(Carrier.accept 0 m r.script).2,
          r.events ++ [.write m (Carrier.accept 0 m r.script).1]⟩) := rfl
    rw [Carrier.acceptAll, if_neg hm, haccept]
    rcases Carrier.accept 0 m r.script with ⟨(_ | k) | e | _, s⟩
    · exact ⟨_, rfl, .broken rfl, fun ho => by cases ho⟩
    · by_cases hk : k + 1 < m.length
      · have hlen : (m.drop (k + 1)).length = m.length - (k + 1) := List.length_drop
        have hdrop : m.drop (k + 1) ≠ [] := List.ne_nil_of_length_pos (by omega)
        obtain ⟨events, hevents, hbegins, hok⟩ :=
          ih hdrop (by omega) ⟨s, r.events ++ [.write m (.ok (k + 1))]⟩
        refine ⟨.write m (.ok (k + 1)) :: events, ?_, .part (Nat.succ_pos k) hk hbegins,
          fun ho rest => .part (Nat.succ_pos k) hk (hok ho rest)⟩
        simp only [hevents, List.append_assoc, List.singleton_append]
      · have hdrop : m.drop (k + 1) = [] := List.drop_of_length_le (by omega)
        refine ⟨[.write m (.ok (k + 1))], ?_, .whole (by omega), fun _ _ => .whole (by omega)⟩
        simp only [hdrop]
        cases fuel <;> rfl
    · exact ⟨_, rfl, .broken rfl, fun ho => by cases ho⟩
    · exact ⟨_, rfl, .broken rfl, fun ho => by cases ho⟩

theorem events_collect (atEnd : Fault) (fuel n : Nat) (r : Recorder) :
    r.events <+: (r.collect 0 atEnd fuel n).2.events := by
  induction fuel generalizing n r with
  | zero => cases n <;> exact List.prefix_refl _
  | succ fuel ih =>
    cases n with
    | zero => exact List.prefix_refl _
    | succ n =>
    have hread : r.note .read (Carrier.read 0 (n + 1)) =
        ((Carrier.read 0 (n + 1) r.script).1, ⟨(Carrier.read 0 (n + 1) r.script).2,
          r.events ++ [.read (Carrier.read 0 (n + 1) r.script).1]⟩) := rfl
    rw [Recorder.collect, hread]
    rcases Carrier.read 0 (n + 1) r.script with ⟨got | f | _, s⟩
    · dsimp only
      split
      · exact List.prefix_append _ _
      · exact (List.prefix_append _ _).trans (ih _ ⟨s, r.events ++ [.read (.ok got)]⟩)
    · dsimp only
      split
      · exact (List.prefix_append _ _).trans (ih _ ⟨s, r.events ++ [.read (.error f)]⟩)
      · exact List.prefix_append _ _
    · exact List.prefix_append _ _

/-- A record only gets longer. -/
theorem respects_events : Carrier.Respects 0 fun r r' : Recorder => r.events <+: r'.events where
  refl _ := List.prefix_refl _
  trans h h' := h.trans h'
  accept _ _ := List.prefix_append _ _
  flush _ := List.prefix_append _ _
  receive n atEnd r := by
    have h := events_collect atEnd (r.script.items.length + 1) n r
    show r.events <+: (r.receive 0 n atEnd).2.events
    rw [Recorder.receive]
    rcases hc : r.collect 0 atEnd (r.script.items.length + 1) n with ⟨got | f | _, r'⟩ <;>
      rw [hc] at h
    · dsimp only
      split <;> exact h
    · exact h
    · exact h

/-- Whatever the stream does, what opens with a message begins by writing all of it. -/
theorem begins_run {ε α : Type} {m : Bytes} (hm : m ≠ []) {f : Fault → ε}
    {next : Conversation ε α} (s : Script) :
    Begins m ((Conversation.write m f next).run 0 (⟨s, []⟩ : Recorder)).2.events := by
  obtain ⟨events, hevents, hbegins, hok⟩ := begins_acceptAll hm (Nat.le_refl m.length) ⟨s, []⟩
  rw [Conversation.run, Carrier.write]
  rcases ha : Carrier.acceptAll 0 m.length m (⟨s, []⟩ : Recorder) with ⟨_ | e | _, r⟩ <;>
    rw [ha] at hevents hok
  · obtain ⟨rest, hrest⟩ := respects_events.run next r
    obtain rfl : r.events = events := hevents
    dsimp only
    rw [← hrest]
    exact hok rfl rest
  · obtain rfl : r.events = events := hevents
    exact hbegins
  · obtain rfl : r.events = events := hevents
    exact hbegins

/-! ## Calls -/

/-- A call for a tunnel, with all it is given. -/
inductive Call where
  | socks4 (target : Endpoint) (userId : Bytes)
  | socks5 (target : Endpoint) (credential : Option Credential)
  | http (target : Endpoint) (credential : Option Credential) (userAgent : Option String)
  deriving DecidableEq, Repr

namespace Call

/-- What a call gives: a SOCKS5 server tells which address it uses. -/
def Result : Call → Type
  | socks4 _ _ | http _ _ _ => Unit
  | socks5 _ _ => Endpoint

/-- What a call does on a stream. -/
def conversation : (call : Call) → Conversation HandshakeError call.Result
  | socks4 target userId => handshakeSocks4 target userId
  | socks5 target credential => handshakeSocks5 target credential
  | http target credential userAgent => handshakeHttp target credential userAgent

/-- An objection, if there is reason for it. -/
def objection (reason : Prop) [Decidable reason] (e : HandshakeError) : List HandshakeError :=
  if reason then [e] else []

theorem objection_pos {reason : Prop} [Decidable reason] (h : reason) (e : HandshakeError) :
    objection reason e = [e] := if_pos h

theorem objection_neg {reason : Prop} [Decidable reason] (h : ¬reason) (e : HandshakeError) :
    objection reason e = [] := if_neg h

/-- What of a credential is too long for the fields of SOCKS5. -/
def loginObjections (c : Credential) : List HandshakeError :=
  let userName := (Utf8.encode c.userName).length
  let password := (Utf8.encode c.password).length
  objection (255 < userName) (.credentialTooLong .userName userName) ++
    objection (255 < password) (.credentialTooLong .password password)

/-- All of a call that its protocol can not say, in the order in which it is looked at. -/
def objections : Call → List HandshakeError
  | socks4 target userId =>
    objection (0 ∈ userId) (.nullByte .userId) ++
      match target.normalize with
      | .socket (.v4 _ _) => []
      | .socket (.v6 ip port flow scope) =>
        [.unsupportedTargetAddress (.socket (.v6 ip port flow scope))]
      | .domain name _ => objection ('\x00' ∈ name.toList) (.nullByte .hostName)
  | socks5 target credential =>
    credential.toList.flatMap loginObjections ++
      match target.normalize with
      | .socket _ => []
      | .domain name _ =>
        let length := (Utf8.encode name).length
        objection (255 < length) (.domainTooLong length)
  | http target _ userAgent =>
    objection (Http.Breaks target.normalize.display.toList) (.invalidHttpHeaderValue .host) ++
      userAgent.toList.flatMap fun agent =>
        objection (Http.Breaks agent.toList) (.invalidHttpHeaderValue .userAgent)

/-- The first message of a call. -/
inductive Opens : Call → Bytes → Prop where
  | socks4 {target : Endpoint} {userId : Bytes} {request : Socks4.Request}
    (h : Socks4.Request.build target userId = .ok request) :
    Opens (socks4 target userId) request.toBytes
  | socks5 {target : Endpoint} {credential : Option Credential} :
    Opens (socks5 target credential) (Socks5.greeting (credential.map Socks5.Login.of))
  | http {target : Endpoint} {credential : Option Credential} {userAgent : Option String}
    {m : Bytes} (h : (Http.ConnectRequest.mk target userAgent credential).toBytes = .ok m) :
    Opens (http target credential userAgent) m

/-- How a call starts: it is refused for its first objection, or has none and opens with a
message. -/
inductive Starts (call : Call) : Prop where
  | refused {e : HandshakeError} (h : call.objections.head? = some e)
    (hc : call.conversation = .fail e)
  | opens {m : Bytes} (h : call.objections = []) (hm : call.Opens m) (hne : m ≠ [])
    (hc : ∃ next, call.conversation = .write m .write next)

section

variable {target : Endpoint} {userId : Bytes} {credential : Option Credential}
  {userAgent : Option String}

theorem refused_socks4 {e : SocksError} (hb : Socks4.Request.build target userId = .error e)
    (h : (socks4 target userId).objections.head? = some (.ofSocks e)) :
    (socks4 target userId).Starts := by
  refine .refused h ?_
  rw [conversation, handshakeSocks4, hb]
  rfl

theorem opens_socks4 {request : Socks4.Request}
    (hb : Socks4.Request.build target userId = .ok request)
    (h : (socks4 target userId).objections = []) : (socks4 target userId).Starts := by
  have hne : request.toBytes ≠ [] := by simp [Socks4.Request.toBytes]
  refine .opens h (.socks4 hb) hne ?_
  rw [conversation, handshakeSocks4, hb]
  exact ⟨_, rfl⟩

theorem starts_socks4 (target : Endpoint) (userId : Bytes) : (socks4 target userId).Starts := by
  by_cases hid : 0 ∈ userId
  · refine refused_socks4 (if_pos (by simpa using hid)) ?_
    rw [objections, objection_pos hid]
    rfl
  have hbuild : Socks4.Request.build target userId = match target.normalize with
      | .socket (.v4 ip port) => .ok ⟨.address ip, port, userId⟩
      | .socket (.v6 ip port flow scope) =>
        .error (.unsupportedAddress (.socket (.v6 ip port flow scope)))
      | .domain name port =>
        if (Utf8.encode name).contains 0 then .error (.nullByte .hostName)
        else .ok ⟨.host name, port, userId⟩ := if_neg (by simpa using hid)
  have hobjections := objection_neg hid (.nullByte .userId)
  cases hn : target.normalize with
  | socket address =>
    rw [hn] at hbuild
    cases address with
    | v4 ip port =>
      refine opens_socks4 hbuild ?_
      rw [objections, hobjections, hn]
      rfl
    | v6 ip port flow scope =>
      refine refused_socks4 hbuild ?_
      rw [objections, hobjections, hn]
      rfl
  | domain name port =>
    rw [hn] at hbuild
    have hnull : 0 ∈ Utf8.encode name ↔ '\x00' ∈ name.toList := Utf8.mem_encodeChars (by decide)
    by_cases hname : '\x00' ∈ name.toList
    · refine refused_socks4
        (hbuild.trans (if_pos (by simpa using hnull.mpr hname))) ?_
      rw [objections, hobjections, hn]
      exact congrArg List.head? (objection_pos hname _)
    · refine opens_socks4 (hbuild.trans (if_neg (by simpa using mt hnull.mp hname))) ?_
      rw [objections, hobjections, hn]
      exact objection_neg hname _

theorem head?_loginObjections {c : Credential} {e : SocksError}
    (h : Socks5.Login.ofCredential c = .error e) :
    (loginObjections c).head? = some (.ofSocks e) := by
  rcases Socks5.Login.build_eq_error.mp h with ⟨hlong, rfl⟩ | ⟨hshort, hlong, rfl⟩
  · have hlong : 255 < (Utf8.encode c.userName).length := hlong
    rw [loginObjections, objection_pos hlong]
    rfl
  · have hshort : ¬255 < (Utf8.encode c.userName).length := Nat.not_lt.mpr hshort
    have hlong : 255 < (Utf8.encode c.password).length := hlong
    rw [loginObjections, objection_neg hshort, objection_pos hlong]
    rfl

theorem loginObjections_eq_nil {c : Credential} {login : Socks5.Login}
    (h : Socks5.Login.ofCredential c = .ok login) : loginObjections c = [] := by
  obtain ⟨huser, hpassword, -⟩ := Socks5.Login.build_eq_ok.mp h
  have huser : ¬255 < (Utf8.encode c.userName).length := Nat.not_lt.mpr huser
  have hpassword : ¬255 < (Utf8.encode c.password).length := Nat.not_lt.mpr hpassword
  rw [loginObjections, objection_neg huser, objection_neg hpassword]
  rfl

theorem opens_socks5 {login : Option Socks5.Login} {destination : Socks.Address}
    (hl : credential.mapM Socks5.Login.ofCredential = .ok login)
    (hd : Socks.Address.ofEndpoint target = .ok destination)
    (h : (socks5 target credential).objections = []) : (socks5 target credential).Starts := by
  refine .opens h .socks5 (Socks5.greeting_ne_nil _) ?_
  rw [conversation, Socks5.handshakeSocks5_eq hl hd, (Socks5.Login.of_mapM_eq_ok hl).1]
  exact ⟨_, rfl⟩

/-- Once the credential is fine, the target alone decides. -/
theorem starts_socks5_target {login : Option Socks5.Login}
    (hl : credential.mapM Socks5.Login.ofCredential = .ok login)
    (h : credential.toList.flatMap loginObjections = []) : (socks5 target credential).Starts := by
  cases hd : Socks.Address.ofEndpoint target with
  | error e =>
    obtain ⟨name, port, hn, hlong, rfl⟩ := Socks.Address.ofEndpoint_eq_error.mp hd
    refine .refused (e := .domainTooLong (Utf8.encode name).length) ?_ ?_
    · rw [objections, h, hn]
      exact congrArg List.head? (objection_pos hlong _)
    · rw [conversation, handshakeSocks5, hl, hd]
      rfl
  | ok destination =>
    refine opens_socks5 hl hd ?_
    rw [objections, h]
    cases hn : target.normalize with
    | socket address => rfl
    | domain name port =>
      refine objection_neg (fun hlong => ?_) _
      rw [Socks.Address.ofEndpoint_eq_error.mpr ⟨name, port, hn, hlong, rfl⟩] at hd
      cases hd

theorem starts_socks5 (target : Endpoint) (credential : Option Credential) :
    (socks5 target credential).Starts := by
  cases credential with
  | none =>
    have hl : (none : Option Credential).mapM Socks5.Login.ofCredential = .ok none := rfl
    exact starts_socks5_target hl rfl
  | some c =>
    have hflat : (some c).toList.flatMap loginObjections = loginObjections c :=
      List.flatMap_singleton ..
    cases hc : Socks5.Login.ofCredential c with
    | error e =>
      have hl : (some c).mapM Socks5.Login.ofCredential = .error e := by
        rw [Option.mapM_some, hc]
        rfl
      refine .refused (e := .ofSocks e) ?_ ?_
      · rw [objections, hflat, List.head?_append, head?_loginObjections hc]
        rfl
      · rw [conversation, handshakeSocks5, hl]
        rfl
    | ok login =>
      have hl : (some c).mapM Socks5.Login.ofCredential = .ok (some login) := by
        rw [Option.mapM_some, hc]
        rfl
      exact starts_socks5_target hl (hflat.trans (loginObjections_eq_nil hc))

theorem starts_http (target : Endpoint) (credential : Option Credential)
    (userAgent : Option String) : (http target credential userAgent).Starts := by
  obtain ⟨hhost, hm⟩ | ⟨⟨hhost, agent, rfl, hagent⟩, hm⟩ | ⟨hsend, hm⟩ :=
    (Http.ConnectRequest.mk target userAgent credential).toBytes_cases
  · have hhost : Http.Breaks target.normalize.display.toList := hhost
    refine .refused (e := .invalidHttpHeaderValue .host) ?_ ?_
    · rw [objections, objection_pos hhost]
      rfl
    · rw [conversation, handshakeHttp, hm]
      rfl
  · have hhost : ¬Http.Breaks target.normalize.display.toList := hhost
    refine .refused (e := .invalidHttpHeaderValue .userAgent) ?_ ?_
    · rw [objections, objection_neg hhost, Option.toList_some, List.flatMap_singleton,
        objection_pos hagent]
      rfl
    · rw [conversation, handshakeHttp, hm]
      rfl
  · have hhost : ¬Http.Breaks target.normalize.display.toList := hsend.host
    refine .opens ?_ (.http hm) (Http.toBytes_ne_nil hm) ?_
    · rw [objections, objection_neg hhost]
      cases userAgent with
      | none => rfl
      | some agent =>
        rw [Option.toList_some, List.flatMap_singleton, objection_neg (hsend.agent agent rfl)]
        rfl
    · rw [conversation, Http.handshakeHttp_eq hm]
      exact ⟨_, rfl⟩

theorem starts (call : Call) : call.Starts := by
  cases call with
  | socks4 target userId => exact starts_socks4 target userId
  | socks5 target credential => exact starts_socks5 target credential
  | http target credential userAgent => exact starts_http target credential userAgent

theorem upfront (call : Call) : call.conversation.Upfront := by
  cases call with
  | socks4 target userId => exact upfront_handshakeSocks4 target userId
  | socks5 target credential => exact upfront_handshakeSocks5 target credential
  | http target credential userAgent => exact upfront_handshakeHttp target credential userAgent

end

/-- On any stream, a call fails without an operation on it exactly if there is an objection to what
it is given, and with the first one. No other error of a call is about what it was given. A call
without objections begins by writing its first message, and reads nothing before all of that was
taken. -/
theorem refused_iff (call : Call) (s : Script) :
    let run := call.conversation.run 0 (⟨s, []⟩ : Recorder)
    (run.1, run.2.script) = call.conversation.run 0 s ∧
      (∀ e, (run.1 = .error e ∧ run.2.events = []) ↔ call.objections.head? = some e) ∧
      (∀ e, (run.1 = .error e ∧ e.IsLocal) ↔ call.objections.head? = some e) ∧
      (call.objections = [] → ∃ m, call.Opens m ∧ Begins m run.2.events ∧
        ∀ before got after, run.2.events = before ++ .read got :: after →
          m <+: before.flatMap Event.put) := by
  intro run
  obtain ⟨ho, hs⟩ := Recorder.run_recorder call.conversation ⟨s, []⟩
  refine ⟨Prod.ext ho hs, ?_⟩
  cases call.starts with
  | @refused first hfirst hc =>
    have hlocal : first.IsLocal := by
      obtain ⟨e, he, hlocal⟩ | ⟨-, hno⟩ := call.upfront
      · cases hc.symm.trans he
        exact hlocal
      · exact absurd hc (hno first)
    have hrun : run = (.error first, ⟨s, []⟩) := by
      show call.conversation.run 0 (⟨s, []⟩ : Recorder) = _
      rw [hc, Conversation.run]
    rw [hrun, hfirst]
    refine ⟨fun e => ⟨?_, ?_⟩, fun e => ⟨?_, ?_⟩, fun hnone => ?_⟩
    · rintro ⟨he, -⟩
      cases he
      rfl
    · intro he
      cases he
      exact ⟨rfl, rfl⟩
    · rintro ⟨he, -⟩
      cases he
      rfl
    · intro he
      cases he
      exact ⟨rfl, hlocal⟩
    · rw [hnone] at hfirst
      cases hfirst
  | @opens m hnone hm hne hc =>
    obtain ⟨next, hc⟩ := hc
    have hnever : call.conversation.Never IsLocal := by
      obtain ⟨e, he, -⟩ | ⟨hnever, -⟩ := call.upfront
      · cases hc.symm.trans he
      · exact hnever
    have hbegins : Begins m run.2.events := by
      show Begins m (call.conversation.run 0 (⟨s, []⟩ : Recorder)).2.events
      rw [hc]
      exact begins_run hne s
    rw [hnone]
    refine ⟨fun e => ⟨?_, fun he => by cases he⟩, fun e => ⟨?_, fun he => by cases he⟩,
      fun _ => ⟨m, hm, hbegins, ?_⟩⟩
    · rintro ⟨-, hnil⟩
      exact absurd hnil hbegins.ne_nil
    · rintro ⟨he, hlocal⟩
      exact absurd hlocal (hnever.run (Prod.ext he rfl))
    · intro before got after hevents
      rw [hevents] at hbegins
      exact hbegins.before_read

/-- A stream that takes two bytes and then breaks is offered the greeting and the rest of it. -/
theorem refused_iff_broken :
    let call := Call.socks5 (.domain "target.test" 80) none
    let s : Script := { writeLimit := some (2, some .brokenPipe) }
    call.objections = [] ∧ ∃ m, call.Opens m ∧
      Begins m (call.conversation.run 0 (⟨s, []⟩ : Recorder)).2.events := by
  intro call s
  have hnone : call.objections = [] := by decide +kernel
  obtain ⟨-, -, -, hopens⟩ := refused_iff call s
  obtain ⟨m, hm, hbegins, -⟩ := hopens hnone
  exact ⟨hnone, m, hm, hbegins⟩

end Call

end ProxyTunnel
