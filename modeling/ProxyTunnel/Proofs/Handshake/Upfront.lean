import ProxyTunnel.Handshake.Http
import ProxyTunnel.Handshake.Socks4
import ProxyTunnel.Handshake.Socks5
import ProxyTunnel.Proofs.Socks.Replies

/-!
# What handshakes refuse before anything is sent

Some errors are about what the client itself wants to say (`HandshakeError.IsLocal`): the target can
not be expressed, or a part of the credential is too long. A handshake ends with such an error at
once or never (`Conversation.Upfront`), for whatever it checks it checks first:

* `upfront_handshakeSocks4`, `upfront_handshakeSocks5`, `upfront_handshakeHttp`.
-/

namespace ProxyTunnel

open Conversation

/-! ## Errors about what the client wants to say -/

/-- The errors about what the client itself wants to say. -/
def HandshakeError.IsLocal (e : HandshakeError) : Prop :=
  e.kind = .invalidTarget ∨ e.kind = .credentialTooLong

open HandshakeError (IsLocal)

theorem not_isLocal {e : HandshakeError} (ht : e.kind ≠ .invalidTarget)
    (hc : e.kind ≠ .credentialTooLong) : ¬IsLocal e := by
  intro h
  obtain h | h := h
  · exact ht h
  · exact hc h

theorem not_isLocal_ofRead (fault : Fault) : ¬IsLocal (.ofRead fault) := by
  unfold HandshakeError.ofRead
  split <;> exact not_isLocal nofun nofun

theorem isLocal_of_request {target : Endpoint} {userId : Bytes} {e : SocksError}
    (h : Socks4.Request.build target userId = .error e) : IsLocal (.ofSocks e) := by
  unfold Socks4.Request.build at h
  split at h
  · cases h
    exact .inl rfl
  split at h
  · cases h
  · cases h
    exact .inl rfl
  · split at h <;> cases h
    exact .inl rfl

theorem isLocal_of_login {credential : Option Credential} {e : SocksError}
    (h : credential.mapM Socks5.Login.ofCredential = .error e) : IsLocal (.ofSocks e) := by
  cases credential with
  | none => cases h
  | some c =>
    have hb : Socks5.Login.ofCredential c = .error e := by
      cases hc : Socks5.Login.ofCredential c with
      | error e' =>
        rw [Option.mapM_some, hc] at h
        cases h
        rfl
      | ok login =>
        rw [Option.mapM_some, hc] at h
        cases h
    unfold Socks5.Login.ofCredential Socks5.Login.build at hb
    split at hb
    · cases hb
      exact .inr rfl
    · split at hb <;> cases hb
      exact .inr rfl

theorem isLocal_of_address {target : Endpoint} {e : SocksError}
    (h : Socks.Address.ofEndpoint target = .error e) : IsLocal (.ofSocks e) := by
  unfold Socks.Address.ofEndpoint at h
  split at h
  · dsimp only at h
    split at h <;> cases h
    exact .inl rfl
  · cases h

theorem isLocal_of_connectRequest {request : Http.ConnectRequest} {e : HttpError}
    (h : request.toBytes = .error e) : IsLocal (.ofHttp e) := by
  rw [Http.ConnectRequest.toBytes, Http.ConnectRequest.text] at h
  split at h
  · cases h
    exact .inl rfl
  · split at h <;> cases h
    exact .inl rfl

/-! ## Handshakes -/

/-- Either the conversation is refused at once, for what it would say, or it is never refused for
that. -/
def Conversation.Upfront {α : Type} (c : Conversation HandshakeError α) : Prop :=
  (∃ e, c = .fail e ∧ IsLocal e) ∨ (c.Never IsLocal ∧ ∀ e, c ≠ .fail e)

theorem never_send_bind {α : Type} {m : Bytes} {k : Unit → Conversation HandshakeError α}
    (hk : (k ()).Never IsLocal) : (send m >>= k).Never IsLocal :=
  ⟨fun _ => not_isLocal nofun nofun, fun _ => not_isLocal nofun nofun, hk⟩

theorem upfront_send_bind {α : Type} {m : Bytes} {k : Unit → Conversation HandshakeError α}
    (hk : (k ()).Never IsLocal) : (send m >>= k).Upfront :=
  .inr ⟨never_send_bind hk, nofun⟩

theorem never_ofSocks {α : Type} {c : Conversation SocksError α}
    (hc : c.Never fun e => IsLocal (.ofSocks e)) : (ofSocks c).Never IsLocal := by
  rw [ofSocks]
  exact Never.mapError hc

theorem upfront_handshakeSocks4 (target : Endpoint) (userId : Bytes) :
    (handshakeSocks4 target userId).Upfront := by
  rw [handshakeSocks4]
  cases hb : Socks4.Request.build target userId with
  | error e => exact .inl ⟨_, rfl, isLocal_of_request hb⟩
  | ok request =>
    refine upfront_send_bind (Never.bind (never_ofSocks ?_) fun reply => ?_)
    · refine ⟨not_isLocal_ofRead, fun v => never_ofExcept fun e h => ?_⟩
      unfold Socks4.Reply.ofVector at h
      split at h <;> cases h
      exact not_isLocal nofun nofun
    · split
      · trivial
      · exact not_isLocal nofun nofun

theorem never_authenticate (login : Option Socks5.Login) (method : Socks5.Method) :
    (authenticate login method).Never IsLocal := by
  cases method with
  | noAuthentication => trivial
  | userPassword =>
    cases login with
    | none => exact not_isLocal nofun nofun
    | some login =>
      refine never_send_bind (Never.bind (never_ofSocks ?_) fun reply => ?_)
      · exact ⟨not_isLocal_ofRead, fun v => trivial⟩
      · split
        · trivial
        · exact not_isLocal nofun nofun
  | _ => exact not_isLocal nofun nofun

theorem never_receiveBody (type : Socks.AddressType) :
    (Socks.Address.receiveBody type).Never fun e => IsLocal (.ofSocks e) := by
  cases type with
  | ipv4 => exact ⟨not_isLocal_ofRead, fun _ => ⟨not_isLocal_ofRead, fun _ => trivial⟩⟩
  | ipv6 => exact ⟨not_isLocal_ofRead, fun _ => ⟨not_isLocal_ofRead, fun _ => trivial⟩⟩
  | domain =>
    exact ⟨not_isLocal_ofRead, fun _ => ⟨not_isLocal_ofRead, fun _ =>
      ⟨not_isLocal_ofRead, fun _ => trivial⟩⟩⟩

theorem never_reply : Socks5.Reply.receive.Never fun e => IsLocal (.ofSocks e) := by
  refine ⟨not_isLocal_ofRead, fun v => ?_⟩
  refine Never.bind (c := Conversation.ofExcept (Socks5.Reply.headOfVector v)) ?_ fun head => ?_
  · refine never_ofExcept fun e h => ?_
    unfold Socks5.Reply.headOfVector at h
    dsimp only at h
    split at h
    · cases hc : Socks.AddressType.ofCode (Net.Word.quad v).2.2.2 with
      | ok type =>
        rw [hc] at h
        cases h
      | error e' =>
        obtain ⟨-, rfl⟩ := Socks.AddressType.ofCode_eq_error.mp hc
        rw [hc] at h
        cases h
        exact not_isLocal nofun nofun
    · cases h
      exact not_isLocal nofun nofun
  · exact Never.bind (never_receiveBody head.2) fun _ => trivial

theorem upfront_handshakeSocks5 (target : Endpoint) (credential : Option Credential) :
    (handshakeSocks5 target credential).Upfront := by
  rw [handshakeSocks5]
  cases hl : credential.mapM Socks5.Login.ofCredential with
  | error e => exact .inl ⟨_, rfl, isLocal_of_login hl⟩
  | ok login =>
  cases hd : Socks.Address.ofEndpoint target with
  | error e => exact .inl ⟨_, rfl, isLocal_of_address hd⟩
  | ok destination =>
    refine upfront_send_bind (Never.bind (never_ofSocks ?_) fun selection => ?_)
    · refine ⟨not_isLocal_ofRead, fun v => never_ofExcept fun e h => ?_⟩
      unfold Socks5.Selection.ofVector at h
      dsimp only at h
      split at h <;> cases h
      exact not_isLocal nofun nofun
    · refine Never.bind (never_authenticate login selection.method) fun _ => ?_
      refine never_send_bind (Never.bind (never_ofSocks never_reply) fun reply => ?_)
      split
      · trivial
      · exact not_isLocal nofun nofun

theorem not_isLocal_of_head {head : Http.Head} {e : HttpError}
    (h : Http.ConnectResponse.ofHead? head = some (.error e)) : ¬IsLocal (.ofHttp e) := by
  cases head with
  | complete status =>
    rw [Http.ConnectResponse.ofHead?, Http.ConnectResponse.ofStatus] at h
    split at h <;> cases h
    exact not_isLocal nofun nofun
  | refused fault =>
    cases h
    exact not_isLocal nofun nofun
  | _ => cases h

theorem never_awaitResponse (room : Nat) (head : Http.Head) :
    (awaitResponse room head).Never IsLocal := by
  induction room generalizing head with
  | zero => exact not_isLocal nofun nofun
  | succ room ih =>
    refine ⟨not_isLocal_ofRead, fun v => ?_⟩
    show (if v[0] = Http.lf then _ else awaitResponse room (head.step v[0])).Never IsLocal
    split
    · split
      · rename_i result hr
        cases result with
        | error e => exact not_isLocal_of_head hr
        | ok response => trivial
      · exact ih _
    · exact ih _

theorem upfront_handshakeHttp (target : Endpoint) (credential : Option Credential)
    (userAgent : Option String) : (handshakeHttp target credential userAgent).Upfront := by
  rw [handshakeHttp]
  cases hm : (Http.ConnectRequest.mk target userAgent credential).toBytes with
  | error e => exact .inl ⟨_, rfl, isLocal_of_connectRequest hm⟩
  | ok message =>
    refine upfront_send_bind (Never.bind (never_awaitResponse _ _) fun response => ?_)
    split
    · trivial
    · exact not_isLocal nofun nofun

end ProxyTunnel
