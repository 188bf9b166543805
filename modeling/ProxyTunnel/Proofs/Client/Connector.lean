import ProxyTunnel.Client.Connector
import ProxyTunnel.Stream.Peer
import ProxyTunnel.Proofs.Handshake.Upfront

/-!
# When the connector refuses a target or a credential

Errors about what the client wants to say come from the handshake, which checks first and speaks
then. For an HTTPS proxy there is a session by then.

* `openLayer_eq_ok`: what the handshake finds (`Reaches`);
* `connect_refused_iff`: exactly when there is such an error, and what the carrier is then;
* `connect_refused_in_session`: an HTTPS proxy sees a session open and nothing said in it.
-/

namespace ProxyTunnel

open Conversation
open HandshakeError (IsLocal)

theorem upfront_handshake (proxy : Proxy) (target : Endpoint) :
    (proxy.handshake target).Upfront := by
  cases proxy with
  | socks4a server credential => exact upfront_handshakeSocks4 _ _
  | socks5 server credential =>
    rw [Proxy.handshake]
    rcases upfront_handshakeSocks5 target credential with ⟨e, h, he⟩ | ⟨hn, hf⟩
    · rw [h]
      exact .inl ⟨e, rfl, he⟩
    · refine .inr ⟨hn.bind fun _ => trivial, fun e h => ?_⟩
      cases hc : handshakeSocks5 target credential with
      | fail e' => exact hf e' hc
      | _ => rw [hc] at h; cases h
  | http server credential userAgent => exact upfront_handshakeHttp _ _ _
  | https server credential userAgent verification => exact upfront_handshakeHttp _ _ _

section

variable {σ : Type} [SessionCarrier σ] {proxy : Proxy} {target : Endpoint} {t t' : Tunnel σ}

/-- What the handshake finds: the carrier as it was, but for an HTTPS proxy the carrier on which the
session is open. -/
def Reaches (proxy : Proxy) (t : Tunnel σ) (s : σ) : Prop :=
  match proxy with
  | .https server _ _ verification => ∃ name, Proxy.serverName server = .ok name ∧
    SessionCarrier.openSession t.level name verification t.carrier = (.ok (), s)
  | _ => s = t.carrier

/-- The layer that a proxy server adds. -/
def layer (proxy : Proxy) : Layer := if proxy.protocol = .https then .tls else .plain

omit [SessionCarrier σ] in
theorem push_eq {l : Layer} :
    t.push l = t' ↔ t'.carrier = t.carrier ∧ t'.layers = l :: t.layers := by
  rcases t' with ⟨carrier, layers⟩
  simp [Tunnel.push, eq_comm]

theorem openLayer_eq_ok :
    openLayer proxy t = (.ok (), t') ↔
      Reaches proxy t t'.carrier ∧ t'.layers = layer proxy :: t.layers := by
  cases proxy with
  | https server credential userAgent verification =>
    rw [openLayer, Reaches]
    cases hn : Proxy.serverName server with
    | error e =>
      constructor
      · intro h
        cases h
      · intro h
        obtain ⟨⟨name, h, -⟩, -⟩ := h
        cases h
    | ok name =>
      have hname : (∃ n, (Except.ok name : Except ClientError Tls.ServerName) = .ok n ∧
            SessionCarrier.openSession t.level n verification t.carrier = (.ok (), t'.carrier)) ↔
          SessionCarrier.openSession t.level name verification t.carrier =
            (.ok (), t'.carrier) := by
        constructor
        · intro h
          obtain ⟨n, hn, h⟩ := h
          cases hn
          exact h
        · exact fun h => ⟨name, rfl, h⟩
      rw [hname]
      dsimp only [Tunnel.act]
      rcases hs : SessionCarrier.openSession t.level name verification t.carrier with ⟨_ | _ | _, s⟩
      · rw [Prod.mk.injEq, Prod.mk.injEq, push_eq, eq_comm (a := s)]
        exact ⟨fun h => ⟨⟨rfl, h.2.1⟩, h.2.2⟩, fun h => ⟨rfl, h.1.2, h.2⟩⟩
      · simp
      · simp
  | _ =>
    show (Outcome.ok (), t.push .plain) = (.ok (), t') ↔ t'.carrier = t.carrier ∧ _
    rw [Prod.mk.injEq, push_eq]
    exact and_iff_right rfl

theorem kind_of_openLayer {e : ClientError} (h : openLayer proxy t = (.error e, t')) :
    e.kind = .tls := by
  cases proxy with
  | https server credential userAgent verification =>
    rw [openLayer] at h
    split at h
    · rename_i hn
      cases h
      unfold Proxy.serverName at hn
      split at hn
      · cases hn
      · split at hn <;> cases hn
        rfl
    · split at h <;> cases h
      rfl
  | _ => cases h

theorem connect_of_openLayer (ho : openLayer proxy t = (.ok (), t')) (target : Endpoint) :
    connect proxy target t =
      (((proxy.handshake target).run t'.level t'.carrier).1.mapError
          (.handshake proxy.protocol proxy.server),
        { t' with carrier := ((proxy.handshake target).run t'.level t'.carrier).2 }) := by
  unfold connect
  rw [ho]
  rfl

/-- Errors about what the client wants to say come before the handshake has written or read
anything, but for an HTTPS proxy not before the session is open. -/
theorem connect_refused_iff {e : ClientError} :
    (connect proxy target t = (.error e, t') ∧
        (e.kind = .invalidTarget ∨ e.kind = .credentialTooLong)) ↔
      Reaches proxy t t'.carrier ∧ t'.layers = layer proxy :: t.layers ∧
        ∃ cause, proxy.handshake target = .fail cause ∧
          e = .handshake proxy.protocol proxy.server cause := by
  constructor
  · intro h
    obtain ⟨h, hk⟩ := h
    rcases ho : openLayer proxy t with ⟨_ | e' | _, t₁⟩
    · rw [connect_of_openLayer ho] at h
      rcases upfront_handshake proxy target with ⟨cause, hc, -⟩ | ⟨hn, -⟩
      · rw [hc] at h
        cases h
        obtain ⟨hr, hl⟩ := openLayer_eq_ok.mp ho
        exact ⟨hr, hl, cause, hc, rfl⟩
      · rcases hrun : (proxy.handshake target).run t₁.level t₁.carrier with ⟨_ | cause | _, s⟩
        · rw [hrun] at h
          cases h
        · rw [hrun] at h
          cases h
          exact absurd hk (hn.run hrun)
        · rw [hrun] at h
          cases h
    -- Where no layer is opened the error is one of the session.
    · have he := kind_of_openLayer ho
      unfold connect at h
      rw [ho] at h
      cases h
      rw [he] at hk
      rcases hk with h | h <;> cases h
    · unfold connect at h
      rw [ho] at h
      cases h
  · intro h
    obtain ⟨hr, hl, cause, hc, rfl⟩ := h
    have ho := openLayer_eq_ok.mpr ⟨hr, hl⟩
    rw [connect_of_openLayer ho, hc]
    refine ⟨rfl, ?_⟩
    rcases upfront_handshake proxy target with ⟨cause', hc', hl'⟩ | ⟨-, hf⟩
    · rw [hc] at hc'
      cases hc'
      exact hl'
    · exact absurd hc (hf cause)

end

/-- An HTTPS proxy that meets a client with an unsayable target: the session is open before the
target is looked at. -/
theorem connect_refused_in_session :
    let peer : Peer := .ofStages [] [] .quiet .v12
    let run := connect (.https (.domain "proxy.test" 443) none none .disabled)
      (.domain "a\r\nb" 5) ⟨peer, []⟩
    ∃ e, run.1 = .error e ∧ e.kind = .invalidTarget ∧ peer.session = .absent ∧
      run.2.carrier.session = .confirmed (some "proxy.test") := by
  intro peer run
  exact ⟨.handshake .https (.domain "proxy.test" 443) (.invalidHttpHeaderValue .host),
    rfl, rfl, rfl, rfl⟩

end ProxyTunnel
