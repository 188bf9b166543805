import ProxyTunnel.Proofs.Handshake.Http
import ProxyTunnel.Proofs.Handshake.Upfront

/-!
# What handshakes are made of

Every handshake sends messages, each flushed before anything else is done, and waits for blocks of
known size in between. It never fails of itself as if the stream had ended, and tells faults of the
stream apart by the step at which they come (`Orderly`).

* `Listens`: conversations that only wait for blocks, such as the replies of servers;
* `Orderly.bind`, `Listens.orderly_ofSocks`: how orderly conversations are put together;
* `IsHandshake.orderly`: all three handshakes are.
-/

namespace ProxyTunnel

namespace Conversation

variable {ε α β : Type}

/-- The conversation only reads. What goes wrong with the stream shows as an error by `f`, the
errors of its own have `p`. -/
def Listens (f : Fault → ε) (p : ε → Prop) : Conversation ε α → Prop
  | .done _ => True
  | .fail e => p e
  | .write _ _ _ | .flush _ _ => False
  | .receive _ z g next => z.isEnd = true ∧ g = f ∧ ∀ v, Listens f p (next v)

theorem listens_ofExcept {f : Fault → ε} {p : ε → Prop} {x : Except ε α}
    (hx : ∀ e, x = .error e → p e) : (ofExcept x).Listens f p := by
  cases x with
  | error e => exact hx e rfl
  | ok a => trivial

theorem Listens.bind {f : Fault → ε} {p : ε → Prop} {c : Conversation ε α}
    {k : α → Conversation ε β} (hc : c.Listens f p) (hk : ∀ a, (k a).Listens f p) :
    (c >>= k).Listens f p := by
  show (c.bind k).Listens f p
  induction c with
  | done a => exact hk a
  | fail e => exact hc
  | write m g next ih => exact hc.elim
  | flush g next ih => exact hc.elim
  | receive n z g next ih => exact ⟨hc.1, hc.2.1, fun v => ih v (hc.2.2 v)⟩

/-- The conversation is made of messages that are flushed at once, and of blocks to wait for. -/
inductive Orderly : Conversation HandshakeError α → Prop where
  | done (a : α) : Orderly (.done a)
  | fail {e : HandshakeError} (he : e ≠ .streamTruncated) : Orderly (.fail e)
  | send {m : Bytes} {next : Conversation HandshakeError α} (hm : m ≠ []) (h : Orderly next) :
    Orderly (.write m .write (.flush .flush next))
  | receive {n : Nat} {z : Fault} {next : Vector UInt8 n → Conversation HandshakeError α}
    (hz : z.isEnd = true) (h : ∀ v, Orderly (next v)) : Orderly (.receive n z .ofRead next)

theorem Orderly.bind {c : Conversation HandshakeError α} {k : α → Conversation HandshakeError β}
    (hc : c.Orderly) (hk : ∀ a, (k a).Orderly) : (c >>= k).Orderly := by
  show (c.bind k).Orderly
  induction hc with
  | done a => exact hk a
  | fail he => exact .fail he
  | send hm _ ih => exact .send hm ih
  | receive hz _ ih => exact .receive hz ih

theorem orderly_ofExcept {x : Except HandshakeError α}
    (hx : ∀ e, x = .error e → e ≠ .streamTruncated) : (ofExcept x).Orderly := by
  cases x with
  | error e => exact .fail (hx e rfl)
  | ok a => exact .done a

theorem orderly_send_bind {m : Bytes} {k : Unit → Conversation HandshakeError α} (hm : m ≠ [])
    (hk : (k ()).Orderly) : (send m >>= k).Orderly := .send hm hk

/-- What listens to SOCKS messages is an orderly part of a handshake. -/
theorem Listens.orderly_ofSocks {c : Conversation SocksError α}
    (hc : c.Listens .read fun e => HandshakeError.ofSocks e ≠ .streamTruncated) :
    (ofSocks c).Orderly := by
  rw [ofSocks]
  induction c with
  | done a => exact .done a
  | fail e => exact .fail hc
  | write m g next ih => exact hc.elim
  | flush g next ih => exact hc.elim
  | receive n z g next ih =>
    obtain ⟨hz, rfl, hnext⟩ := hc
    exact .receive hz fun v => ih v (hnext v)

/-- Who finds the end of the stream reports just that. -/
theorem Orderly.endsWith {c : Conversation HandshakeError α} (hc : c.Orderly) :
    c.EndsWith (· = .streamTruncated) := by
  induction hc with
  | done a => trivial
  | fail he => trivial
  | send hm _ ih => exact ih
  | receive hz _ ih => exact ⟨if_pos hz, ih⟩

end Conversation

open Conversation Socks

/-! ## What is listened to -/

section

variable {α : Type}

/-- No error of what a message says is the end of the stream. -/
def SocksError.IsOfMessage (e : SocksError) : Prop := HandshakeError.ofSocks e ≠ .streamTruncated

theorem Socks.Address.listens_receiveBody (type : AddressType) :
    (Address.receiveBody type).Listens .read SocksError.IsOfMessage := by
  cases type with
  | ipv4 => exact ⟨rfl, rfl, fun _ => ⟨rfl, rfl, fun _ => trivial⟩⟩
  | ipv6 => exact ⟨rfl, rfl, fun _ => ⟨rfl, rfl, fun _ => trivial⟩⟩
  | domain =>
    exact ⟨rfl, rfl, fun _ => ⟨rfl, rfl, fun _ => ⟨rfl, rfl, fun _ => trivial⟩⟩⟩

theorem Socks5.Selection.listens_receive :
    Socks5.Selection.receive.Listens .read SocksError.IsOfMessage := by
  refine ⟨rfl, rfl, fun v => listens_ofExcept fun e h => ?_⟩
  unfold Socks5.Selection.ofVector at h
  dsimp only at h
  split at h <;> cases h
  exact nofun

theorem Socks5.LoginReply.listens_receive :
    Socks5.LoginReply.receive.Listens .read SocksError.IsOfMessage :=
  ⟨rfl, rfl, fun _ => trivial⟩

theorem Socks5.Reply.listens_receive :
    Socks5.Reply.receive.Listens .read SocksError.IsOfMessage := by
  refine ⟨rfl, rfl, fun v => ?_⟩
  refine Listens.bind (c := Conversation.ofExcept (Socks5.Reply.headOfVector v)) ?_ fun head => ?_
  · refine listens_ofExcept fun e h => ?_
    unfold Socks5.Reply.headOfVector at h
    dsimp only at h
    split at h
    · unfold AddressType.ofCode at h
      split at h <;> cases h
      exact nofun
    · cases h
      exact nofun
  · exact (Address.listens_receiveBody head.2).bind fun _ => trivial

theorem Socks4.Reply.listens_receive :
    Socks4.Reply.receive.Listens .read SocksError.IsOfMessage := by
  refine ⟨rfl, rfl, fun v => listens_ofExcept fun e h => ?_⟩
  unfold Socks4.Reply.ofVector at h
  split at h <;> cases h
  exact nofun

theorem orderly_awaitResponse (room : Nat) (head : Http.Head) :
    (awaitResponse room head).Orderly := by
  induction room generalizing head with
  | zero => exact .fail (by simp)
  | succ room ih =>
    refine .receive rfl fun v => ?_
    show (if v[0] = Http.lf then _ else awaitResponse room (head.step v[0])).Orderly
    split
    · split
      · refine orderly_ofExcept fun e h => ?_
        rename_i result _
        cases result with
        | error e' =>
          cases h
          cases e' <;> simp [HandshakeError.ofHttp]
        | ok response => cases h
      · exact ih _
    · exact ih _

end

/-! ## Handshakes -/

/-- The handshakes, with all that they can be asked. -/
inductive IsHandshake : {α : Type} → Conversation HandshakeError α → Prop where
  | socks4 (target : Endpoint) (userId : Bytes) : IsHandshake (handshakeSocks4 target userId)
  | socks5 (target : Endpoint) (credential : Option Credential) :
    IsHandshake (handshakeSocks5 target credential)
  | http (target : Endpoint) (credential : Option Credential) (userAgent : Option String) :
    IsHandshake (handshakeHttp target credential userAgent)

theorem HandshakeError.IsLocal.ne_streamTruncated {e : HandshakeError} (h : e.IsLocal) :
    e ≠ .streamTruncated := by
  rintro rfl
  obtain h | h := h <;> cases h

theorem orderly_handshakeSocks4 (target : Endpoint) (userId : Bytes) :
    (handshakeSocks4 target userId).Orderly := by
  rw [handshakeSocks4]
  cases hb : Socks4.Request.build target userId with
  | error e => exact .fail (isLocal_of_request hb).ne_streamTruncated
  | ok request =>
    refine orderly_send_bind (List.cons_ne_nil _ _) ?_
    refine Socks4.Reply.listens_receive.orderly_ofSocks.bind fun reply => ?_
    split
    · exact .done _
    · exact .fail (by simp)

theorem orderly_authenticate (login : Option Socks5.Login) (method : Socks5.Method) :
    (authenticate login method).Orderly := by
  cases method with
  | noAuthentication => exact .done _
  | userPassword =>
    cases login with
    | none => exact .fail (by simp)
    | some login =>
      refine orderly_send_bind (List.cons_ne_nil _ _) ?_
      refine Socks5.LoginReply.listens_receive.orderly_ofSocks.bind fun reply => ?_
      split
      · exact .done _
      · exact .fail (by simp)
  | _ => exact .fail (by simp)

theorem orderly_handshakeSocks5 (target : Endpoint) (credential : Option Credential) :
    (handshakeSocks5 target credential).Orderly := by
  rw [handshakeSocks5]
  cases hl : credential.mapM Socks5.Login.ofCredential with
  | error e => exact .fail (isLocal_of_login hl).ne_streamTruncated
  | ok login =>
  cases hd : Socks.Address.ofEndpoint target with
  | error e => exact .fail (isLocal_of_address hd).ne_streamTruncated
  | ok destination =>
    refine orderly_send_bind (List.cons_ne_nil _ _) ?_
    refine Socks5.Selection.listens_receive.orderly_ofSocks.bind fun selection => ?_
    refine (orderly_authenticate login selection.method).bind fun _ => ?_
    refine orderly_send_bind (List.cons_ne_nil _ _) ?_
    refine Socks5.Reply.listens_receive.orderly_ofSocks.bind fun reply => ?_
    split
    · exact .done _
    · exact .fail (by simp)

theorem orderly_handshakeHttp (target : Endpoint) (credential : Option Credential)
    (userAgent : Option String) : (handshakeHttp target credential userAgent).Orderly := by
  rw [handshakeHttp]
  cases hm : (Http.ConnectRequest.mk target userAgent credential).toBytes with
  | error e => exact .fail (isLocal_of_connectRequest hm).ne_streamTruncated
  | ok message =>
    refine orderly_send_bind (Http.toBytes_ne_nil hm) ?_
    refine (orderly_awaitResponse _ _).bind fun response => ?_
    split
    · exact .done _
    · exact .fail (by simp)

theorem IsHandshake.orderly {α : Type} {c : Conversation HandshakeError α} (hc : IsHandshake c) :
    c.Orderly := by
  cases hc with
  | socks4 target userId => exact orderly_handshakeSocks4 target userId
  | socks5 target credential => exact orderly_handshakeSocks5 target credential
  | http target credential userAgent => exact orderly_handshakeHttp target credential userAgent

end ProxyTunnel
