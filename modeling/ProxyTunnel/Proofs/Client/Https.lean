import ProxyTunnel.Proofs.Client.Stacked
import ProxyTunnel.Proofs.Handshake.AtOnce
import ProxyTunnel.Proofs.Stream.Peer
import ProxyTunnel.Proofs.Stream.Trail
import ProxyTunnel.Proofs.Tls.ServerName

/-!
# HTTPS proxies

An HTTPS proxy is an HTTP proxy inside a session that is named after the proxy. The session is taken
to be a reliable stream: what is done in it comes to the same as on a plain one (`Carrier.Mirrors`).

* `connect_unrecorded`: to record a connection makes no difference to it;
* `Http.isHead_of_hears`: who gets a tunnel has said the request and heard the head of a response;
* `connect_in_session`: what passes in the session is what passes on the plain stream, and outside
  of it nothing passes; nor does anything without a name for the session.
-/

namespace ProxyTunnel

open Conversation Http

/-! ## Connections on record -/

section

variable {σ : Type}

/-- The tunnel with a record of all that is done from now on. -/
def Tunnel.recorded (t : Tunnel σ) : Tunnel (Trail σ) := ⟨⟨t.carrier, []⟩, t.layers⟩

/-- The tunnel without its record. -/
def Tunnel.unrecorded (t : Tunnel (Trail σ)) : Tunnel σ := ⟨t.carrier.stream, t.layers⟩

variable [SessionCarrier σ]

/-- A server that can be named is asked for a session, and nothing else is done. -/
theorem openLayer_https {server : Endpoint} {name : Tls.ServerName}
    (hn : Proxy.serverName server = .ok name) (credential : Option Credential)
    (userAgent : Option String) (verification : Verification) (t : Tunnel σ) :
    openLayer (.https server credential userAgent verification) t =
      match SessionCarrier.openSession t.level name verification t.carrier with
      | (.ok (), s) => (.ok (), ⟨s, .tls :: t.layers⟩)
      | (.error f, s) => (.error (.establishTls server f), ⟨s, t.layers⟩)
      | (.stalled, s) => (.stalled, ⟨s, t.layers⟩) := by
  rw [openLayer, hn]
  dsimp only [Tunnel.act]
  rcases SessionCarrier.openSession t.level name verification t.carrier with ⟨_ | _ | _, s⟩ <;> rfl

theorem openLayer_unrecorded (proxy : Proxy) (t : Tunnel (Trail σ)) :
    openLayer proxy t.unrecorded =
      ((openLayer proxy t).1, (openLayer proxy t).2.unrecorded) := by
  cases proxy with
  | https server credential userAgent verification =>
    cases hn : Proxy.serverName server with
    | error e =>
      rw [openLayer, openLayer, hn]
    | ok name =>
      rw [openLayer_https hn, openLayer_https hn]
      show (match SessionCarrier.openSession t.level name verification t.carrier.stream with
        | (.ok (), s) => _ | (.error f, s) => _ | (.stalled, s) => _) = _
      dsimp only [SessionCarrier.openSession]
      rcases SessionCarrier.openSession t.level name verification t.carrier.stream with
        ⟨_ | _ | _, s⟩ <;> rfl
  | _ => rfl

theorem converse_unrecorded {ε α : Type} (c : Conversation ε α) (t : Tunnel (Trail σ)) :
    t.unrecorded.converse c = ((t.converse c).1, (t.converse c).2.unrecorded) := by
  have hmirrors := Trail.mirrors_stream (σ := σ) t.level
  obtain ⟨ho, hstream⟩ := hmirrors.run (s := t.carrier) rfl c
  exact Prod.ext ho.symm (congrArg (Tunnel.mk · t.layers) hstream.symm)

/-- To record a connection makes no difference to it. -/
theorem connect_unrecorded (proxy : Proxy) (target : Endpoint) (t : Tunnel (Trail σ)) :
    connect proxy target t.unrecorded =
      ((connect proxy target t).1, (connect proxy target t).2.unrecorded) := by
  rw [connect, connect, openLayer_unrecorded]
  rcases openLayer proxy t with ⟨_ | _ | _, t'⟩
  · dsimp only
    rw [converse_unrecorded]
  · rfl
  · rfl

end

/-! ## What was said and heard for a tunnel -/

namespace Http

/-- A response that is found in the line that decides is all there is. -/
theorem isHead_of_decides {p S : Bytes} (hd : Decides p S) {response : ConnectResponse}
    (hr : ConnectResponse.ofHead? (Head.start.run p) = some (.ok response)) :
    IsHead p response.status := by
  match hp : ConnectResponse.parse p with
  | .ok none => exact absurd hp hd.speaks
  | .error e =>
    rw [ConnectResponse.ofHead?_of_parse_error hp] at hr
    cases hr
  | .ok (some (found, n)) =>
    rw [ConnectResponse.ofHead?_of_parse_ok hp] at hr
    cases hr
    obtain ⟨-, head, rest, hsplit, hn, hhead⟩ := ConnectResponse.parse_eq_some.mp hp
    have hlen := congrArg List.length hsplit
    rw [List.length_append, ← hn, hd.length_eq hp] at hlen
    have hrest : rest = [] := List.eq_nil_of_length_eq_zero (by omega)
    rwa [hsplit, hrest, List.append_nil]

/-- Who gets a tunnel has said the request and heard the head of a response, and no byte more. -/
theorem isHead_of_hears {target : Endpoint} {credential : Option Credential}
    {userAgent : Option String} {l l' : Ledger} {heard : Bytes}
    (h : (handshakeHttp target credential userAgent).Hears l heard (.ok ()) l') :
    ∃ message, (ConnectRequest.mk target userAgent credential).toBytes = .ok message ∧
      l'.said = l.said ++ message ∧
      ∃ status, 200 ≤ status ∧ status ≤ 299 ∧ IsHead heard status := by
  cases hm : (ConnectRequest.mk target userAgent credential).toBytes with
  | error e =>
    rw [handshakeHttp, hm] at h
    obtain ⟨-, hr, -⟩ := h
    cases hr
  | ok message =>
    have hcourse := h.course .ended []
    rw [List.append_nil] at hcourse
    by_cases hd : ∃ p, Decides p heard
    · obtain ⟨p, hd⟩ := hd
      obtain ⟨q, rfl⟩ := hd.endsLine
      obtain ⟨rest, rfl⟩ := hd.starts
      obtain ⟨r, hr⟩ : ∃ r, ConnectResponse.ofHead? (Head.start.run (q ++ [lf])) = some r :=
        Option.ne_none_iff_exists'.mp fun hn => hd.speaks (ConnectResponse.parse_eq_none.mpr hn)
      rw [course_decided hm hd.quiet hr hd.fits, Prod.mk.injEq, Prod.mk.injEq] at hcourse
      obtain ⟨hdecision, rfl, rfl⟩ := hcourse
      cases r with
      | error e => cases hdecision
      | ok response =>
        rw [decision] at hdecision
        split at hdecision
        · rename_i hstatus
          refine ⟨message, rfl, ?_, response.status, hstatus.1, hstatus.2, ?_⟩
          · rw [Ledger.said_read, Ledger.say, Ledger.said_flush, Ledger.said_write]
          · rw [List.append_nil]
            exact isHead_of_decides hd hr
        · cases hdecision
    -- Where no line decides, the handshake fails.
    · have hd : ∀ p, ¬Decides p heard := fun p hp => hd ⟨p, hp⟩
      rcases Nat.lt_or_ge heard.length maxHeadSize with hlt | hge
      · have hquiet := quiet_take hd
        rw [List.take_of_length_le (Nat.le_of_lt hlt)] at hquiet
        rw [course_short hm hquiet hlt] at hcourse
        cases hcourse
      · have hlen : (heard.take maxHeadSize).length = maxHeadSize := List.length_take_of_le hge
        rw [← List.take_append_drop maxHeadSize heard, course_full hm (quiet_take hd) hlen]
          at hcourse
        cases hcourse

end Http

/-! ## Sessions and plain streams -/

section

variable {σ τ : Type} [SessionCarrier σ] [SessionCarrier τ] {R : σ → τ → Prop}

/-- What came of an HTTPS proxy in a session is what came of the HTTP proxy on a plain stream. -/
structure SameInSession (server : Endpoint) (request : ConnectRequest) (t : Tunnel σ)
    (opening : Act) (R : σ → τ → Prop) (run : Outcome ClientError Unit × Tunnel (Trail σ))
    (plain : Outcome ClientError Unit × Tunnel (Trail τ)) : Prop where
  /-- Errors differ in nothing but the protocol. -/
  outcome : ∃ o : Outcome HandshakeError Unit,
    run.1 = o.mapError (.handshake .https server) ∧
      plain.1 = o.mapError (.handshake .http server)
  /-- Behind the opening of the session, everything happened inside, and it is all that happened on
  the plain stream. For a tunnel that was the request and one head of a response. -/
  acts : ∃ events : List Event,
    run.2.carrier.acts = opening :: events.map (.on (t.level + 1)) ∧
      plain.2.carrier.acts = events.map (.on 0) ∧
      (run.1 = .ok () → request.toBytes = .ok (events.flatMap Event.put) ∧
        ∃ status, 200 ≤ status ∧ status ≤ 299 ∧ IsHead (events.flatMap Event.got) status)
  streams : R run.2.carrier.stream plain.2.carrier.stream
  layers : run.2.layers = .tls :: t.layers
  /-- The tunnel goes on inside. -/
  inside (uses : List Use) : (Use.runAll 0 uses run.2).2.carrier.acts =
    run.2.carrier.acts ++ (Use.runAll 0 uses run.2).1.map (.on (t.level + 1))
  /-- And it goes on where the plain one does. -/
  behind (uses : List Use) : .shutdown ∉ uses →
    (Use.runAll 0 uses run.2).1 = (Use.runAll 0 uses plain.2).1

omit [SessionCarrier τ] in
/-- What the record holds of a session that was to be opened. -/
theorem openLayer_recorded {server : Endpoint} {name : Tls.ServerName}
    (hn : Proxy.serverName server = .ok name) {verification : Verification} {t : Tunnel σ}
    {o : Outcome Fault Unit} {s : σ}
    (hs : SessionCarrier.openSession t.level name verification t.carrier = (o, s))
    (credential : Option Credential) (userAgent : Option String) :
    openLayer (.https server credential userAgent verification) t.recorded =
      let opened : Trail σ := ⟨s, [.opening t.level name verification o]⟩
      match o with
      | .ok () => (.ok (), ⟨opened, .tls :: t.layers⟩)
      | .error f => (.error (.establishTls server f), ⟨opened, t.layers⟩)
      | .stalled => (.stalled, ⟨opened, t.layers⟩) := by
  have hopen : SessionCarrier.openSession t.recorded.level name verification t.recorded.carrier =
      (o, ⟨s, [.opening t.level name verification o]⟩) :=
    congrArg (fun x => (x.1, Trail.mk x.2 [.opening t.level name verification x.1])) hs
  rw [openLayer_https hn, hopen]
  rcases o with _ | _ | _ <;> rfl

theorem sameInSession_of_opened {server : Endpoint} {name : Tls.ServerName}
    (hn : Proxy.serverName server = .ok name) {verification : Verification} {t : Tunnel σ} {s : σ}
    (hs : SessionCarrier.openSession t.level name verification t.carrier = (.ok (), s)) {q : τ}
    (hR : Carrier.Mirrors (t.level + 1) 0 R) (hq : R s q) (target : Endpoint)
    (credential : Option Credential) (userAgent : Option String) :
    SameInSession server ⟨target, userAgent, credential⟩ t
      (.opening t.level name verification (.ok ())) R
      (connect (.https server credential userAgent verification) target t.recorded)
      (connect (.http server credential userAgent) target (Tunnel.recorded ⟨q, []⟩)) := by
  have hlevel (r : Trail σ) : (⟨r, .tls :: t.layers⟩ : Tunnel (Trail σ)).level = t.level + 1 :=
    List.count_cons_self
  let opening : Act := .opening t.level name verification (.ok ())
  let inside : Trail σ := ⟨s, [opening]⟩
  let outside : Trail τ := ⟨q, []⟩
  let handshake := handshakeHttp target credential userAgent
  -- Both are runs of one handshake, on levels that are in step.
  have hlayer : openLayer (.https server credential userAgent verification) t.recorded =
      (.ok (), ⟨inside, .tls :: t.layers⟩) := openLayer_recorded hn hs credential userAgent
  have hrun : connect (.https server credential userAgent verification) target t.recorded =
      ((handshake.run (t.level + 1) inside).1.mapError (.handshake .https server),
        ⟨(handshake.run (t.level + 1) inside).2, .tls :: t.layers⟩) := by
    rw [connect_of_openLayer hlayer, hlevel]
    rfl
  have hplain : connect (.http server credential userAgent) target (Tunnel.recorded ⟨q, []⟩) =
      ((handshake.run 0 outside).1.mapError (.handshake .http server),
        ⟨(handshake.run 0 outside).2, [.plain]⟩) := rfl
  have hstart : Trail.Abreast (t.level + 1) 0 R [opening] [] inside outside := ⟨hq, [], rfl, rfl⟩
  obtain ⟨o, r, r', hr, hr', hstreams, events, hacts, hacts'⟩ :=
    ((hR.abreast [opening] []).run hstart handshake).exists_eq
  rw [hrun, hplain, hr, hr']
  refine ⟨⟨o, rfl, rfl⟩, ⟨events, hacts, hacts', fun ho => ?_⟩, hstreams, rfl, fun uses => ?_,
    fun uses huses => ?_⟩
  · cases o with
    | ok a =>
      obtain ⟨passed, l', hpassed, hheard, hsaid⟩ := Trail.hears_of_run hr' {}
      obtain rfl : passed = events := by
        rw [hacts'] at hpassed
        exact ((List.map_inj_right fun _ _ h => (Act.on.inj h).2).mp hpassed).symm
      obtain ⟨message, hm, hsaid', hstatus⟩ := isHead_of_hears hheard
      refine ⟨?_, hstatus⟩
      rw [hm, ← List.append_cancel_left (hsaid'.symm.trans hsaid)]
    | error e => cases ho
    | stalled => cases ho
  · rw [runAll_level, hlevel]
    exact Trail.acts_runAll uses r
  · rw [runAll_level, runAll_level, hlevel]
    have hbehind : Trail.Abreast (t.level + 1) 0 R r.acts r'.acts r r' :=
      ⟨hstreams, [], (List.append_nil _).symm, (List.append_nil _).symm⟩
    exact ((hR.abreast r.acts r'.acts).runAll hbehind huses).outcome

/-- An HTTPS proxy is an HTTP proxy inside a session. The session is asked for first, and under the
name that the proxy has by its own address (`Endpoint.IsNamed`); without one nothing else happens.
Where it opens, and is in step with a plain stream, the request and all that follows goes through it
as it goes through that stream. A proxy without a name is not asked for anything. -/
theorem connect_in_session {server : Endpoint} {verification : Verification} {t : Tunnel σ} {q : τ}
    (hR : Carrier.Mirrors (t.level + 1) 0 R)
    (hq : ∀ name s, server.IsNamed name →
      SessionCarrier.openSession t.level name verification t.carrier = (.ok (), s) → R s q)
    (target : Endpoint) (credential : Option Credential) (userAgent : Option String) :
    let https : Proxy := .https server credential userAgent verification
    let http : Proxy := .http server credential userAgent
    let run := connect https target t.recorded
    let plain := connect http target (Tunnel.recorded ⟨q, []⟩)
    connect https target t = (run.1, run.2.unrecorded) ∧
      connect http target ⟨q, []⟩ = (plain.1, plain.2.unrecorded) ∧
      (∀ name, server.IsNamed name →
        let opened := SessionCarrier.openSession t.level name verification t.carrier
        let opening : Act := .opening t.level name verification opened.1
        match opened.1 with
        | .ok () => SameInSession server ⟨target, userAgent, credential⟩ t opening R run plain
        | .error f => run = (.error (.establishTls server f), ⟨⟨opened.2, [opening]⟩, t.layers⟩)
        | .stalled => run = (.stalled, ⟨⟨opened.2, [opening]⟩, t.layers⟩)) ∧
      ((∀ name, ¬server.IsNamed name) → ∃ text port, server = .domain text port ∧
        run = (.error (.invalidServerName text), t.recorded)) := by
  intro https http run plain
  refine ⟨connect_unrecorded https target t.recorded,
    connect_unrecorded http target (Tunnel.recorded ⟨q, []⟩), fun name hname => ?_, fun hnone => ?_⟩
  · have hn := Proxy.serverName_eq_ok.mpr hname
    dsimp only
    rcases hs : SessionCarrier.openSession t.level name verification t.carrier with ⟨o, s⟩
    have hlayer := openLayer_recorded hn hs credential userAgent
    cases o with
    | ok a =>
      exact sameInSession_of_opened hn hs hR (hq name s hname hs) target credential userAgent
    | error f =>
      show connect https target t.recorded = _
      rw [connect, hlayer]
    | stalled =>
      show connect https target t.recorded = _
      rw [connect, hlayer]
  · cases hn : Proxy.serverName server with
    | ok name => exact absurd (Proxy.serverName_eq_ok.mp hn) (hnone name)
    | error e =>
      obtain ⟨-, text, port, hserver, rfl⟩ := Proxy.serverName_eq_error.mp hn
      refine ⟨text, port, hserver, ?_⟩
      show connect https target t.recorded = _
      rw [connect, openLayer, hn]

end

/-- A peer that answers at once. The byte behind the head of its response is the first one of the
tunnel. -/
theorem connect_in_session_tunnel :
    let peer : Peer := .ofStages [] [⟨.exactly 0, shortResponse ++ [42]⟩] .graceful .v12
    let plain : Script := { items := [.data (shortResponse ++ [42])] }
    let server : Endpoint := .domain "proxy.test" 443
    let name : Tls.ServerName := .dns "proxy.test"
    let run := connect (.https server none none .disabled) (.domain "example.org" 80)
      (Tunnel.recorded ⟨peer, []⟩)
    Carrier.Mirrors 1 0 Peer.IsServed ∧ server.IsNamed name ∧
      (∃ s, SessionCarrier.openSession 0 name .disabled peer = (.ok (), s) ∧ s.IsServed plain) ∧
      run.1 = .ok () ∧ (Use.run 0 (.read 2) run.2).1 = .read (.ok [42]) := by
  intro peer plain server name run
  have hname : server.IsNamed name := .dns (by decide)
  have hopen : ∃ s, SessionCarrier.openSession 0 name .disabled peer = (.ok (), s) ∧
      s.IsServed plain :=
    ⟨_, rfl, rfl, rfl, rfl, rfl, rfl, rfl, rfl, rfl, rfl, rfl⟩
  have hq (name' : Tls.ServerName) (s : Peer) (hname' : server.IsNamed name')
      (hs : SessionCarrier.openSession 0 name' .disabled peer = (.ok (), s)) :
      s.IsServed plain := by
    obtain ⟨s', hs', hserved⟩ := hopen
    cases (Proxy.serverName_eq_ok.mpr hname).symm.trans (Proxy.serverName_eq_ok.mpr hname')
    cases hs'.symm.trans hs
    exact hserved
  let outside := connect (.http server none none) (.domain "example.org" 80)
    (Tunnel.recorded ⟨plain, []⟩)
  have hplain : outside.1 = .ok () := by
    decide +kernel
  have hread : (Use.runAll 0 [.read 2] outside.2).1 = [.read (.ok [42])] := by
    decide +kernel
  obtain ⟨-, -, hnamed, -⟩ := connect_in_session (t := ⟨peer, []⟩) Peer.mirrors_isServed hq
    (.domain "example.org" 80) none none
  have hsame : SameInSession server ⟨.domain "example.org" 80, none, none⟩
      (⟨peer, []⟩ : Tunnel Peer) (.opening 0 name .disabled (.ok ())) Peer.IsServed run outside :=
    hnamed name hname
  obtain ⟨o, hrun, ho⟩ := hsame.outcome
  have hbehind := hsame.behind [.read 2] (by simp)
  rw [hread] at hbehind
  refine ⟨Peer.mirrors_isServed, hname, hopen, ?_, (List.cons.inj hbehind).1⟩
  cases o with
  | ok a => exact hrun
  | error e => cases ho.symm.trans hplain
  | stalled => cases ho.symm.trans hplain

end ProxyTunnel
