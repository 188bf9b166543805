import ProxyTunnel.Proofs.Client.Stacked
import ProxyTunnel.Proofs.Handshake.Socks5
import ProxyTunnel.Proofs.Stream.Alike
import ProxyTunnel.Proofs.Stream.Heard
import ProxyTunnel.Proofs.Text.Utf8

/-!
# What a password can change

Nothing but its own field. A SOCKS4a proxy is never told the password, a SOCKS5 proxy only in the
message that presents user name and password, an HTTP proxy only in the token of one header. If
another password of the same length stands there, a connection ends in the same way, and streams
hold the same messages but for that field (`connect_password`).
-/

namespace ProxyTunnel

open Conversation Text Socks Socks5

/-! ## The field of a password -/

/-- What the message with user name and password says in front of a password of `n` bytes. -/
def Socks5.Login.front (userName : Bytes) (n : Nat) : Bytes :=
  1 :: UInt8.ofNat userName.length :: userName ++ [UInt8.ofNat n]

theorem Socks5.Login.toBytes_eq (userName password : Bytes) :
    (Login.mk userName password).toBytes = front userName password.length ++ password := by
  simp [toBytes, front]

/-- The bytes that present a credential in a header. -/
def Credential.token (c : Credential) : Bytes :=
  Utf8.encodeChars (Base64.encode (Utf8.encode c.pair))

namespace Http.ConnectRequest

/-- What a request with a credential says in front of the token. -/
def front (target : Endpoint) (userAgent : Option String) : List Char :=
  let host := target.normalize.chars
  line ("CONNECT ".toList ++ host ++ " HTTP/1.1".toList) ++ line ("Host: ".toList ++ host) ++
    (userAgent.map fun agent => line ("User-Agent: ".toList ++ agent.toList)).getD [] ++
    "Proxy-Authorization: Basic ".toList

/-- What a request says behind the token: the ends of the header's line and of the head. -/
def back : List Char := ['\r', '\n', '\r', '\n']

/-- A request is refused for its target or user agent alone. Otherwise a credential is the last
header. -/
theorem toBytes_credential (target : Endpoint) (userAgent : Option String) (c : Credential) :
    (mk target userAgent (some c)).toBytes = (mk target userAgent none).toBytes.map fun _ =>
      Utf8.encodeChars (front target userAgent) ++ c.token ++ Utf8.encodeChars back := by
  have hlines : ((mk target userAgent (some c)).lines target.normalize.chars).flatMap line =
      front target userAgent ++ Base64.encode (Utf8.encode c.pair) ++ back := by
    cases userAgent <;> simp [lines, front, back, line, Credential.basic]
  rw [toBytes, toBytes, text, text, hlines]
  dsimp only
  split
  · rfl
  · split
    · rfl
    · simp only [Except.map, Utf8.encodeChars_append, Credential.token]

end Http.ConnectRequest

/-- The length of a token depends on the lengths of user name and password only. -/
theorem Credential.length_token (c : Credential) :
    c.token.length =
      ((Utf8.encode c.userName).length + 1 + (Utf8.encode c.password).length + 2) / 3 * 4 := by
  have hpair : (Utf8.encode c.pair).length =
      (Utf8.encode c.userName).length + 1 + (Utf8.encode c.password).length := by
    have hcolon : (Utf8.encodeChars ":".toList).length = 1 := by decide
    rw [pair, Utf8.encode, String.toList_append, String.toList_append, Utf8.encodeChars_append,
      Utf8.encodeChars_append, List.length_append, List.length_append, hcolon]
    rfl
  rw [token, Utf8.length_encodeChars (Base64.ascii_encode _), Base64.length_encode, hpair]

/-! ## The choice of the method -/

section

variable {s s' : Script}

theorem eq_two_of_userPassword {m : UInt8} (h : Method.ofCode m = .userPassword) : m = 2 := by
  unfold Method.ofCode at h
  split at h <;> first | rfl | cases h

/-- How a client gets to know the method. -/
def opening (login : Option Login) : Conversation HandshakeError Selection := do
  send (greeting login)
  ofSocks Selection.receive

/-- The method that a server selects is the second byte of what it says. -/
theorem run_opening_ok {login : Option Login} {selection : Selection}
    (h : (opening login).run 0 s = (.ok selection, s')) :
    s'.pending = none ∧
      ∃ m put, selection.method = .ofCode m ∧ s.Carries [5, m] put s' := by
  obtain ⟨heard, put, hheard, hcarries⟩ := hears_of_run h
  rw [opening, hears_send_bind, ofSocks, hears_mapError] at hheard
  obtain ⟨r, hr, hheard⟩ := hheard
  obtain ⟨v, m, rfl, hledger, rfl⟩ := hears_selection.mp hheard
  split at hr <;> cases hr
  subst v
  exact ⟨congrArg Ledger.pending hledger, m, put, rfl, hcarries⟩

/-- What was read of a stream up to a later state of it. -/
def Script.readUpTo (s s' : Script) : Bytes := s.unread.take (s'.consumed - s.consumed)

theorem Script.Carries.readUpTo {got put : Bytes} (h : s.Carries got put s') :
    s.readUpTo s' = got := by
  rw [Script.readUpTo, h.consumed, Nat.add_sub_cancel_left, h.unread, List.take_left]

end

/-! ## SOCKS5 -/

section

variable {p p' : String}

/-- No check tells the passwords apart: they are of the same length, or both fit into the field. -/
def CheckedAlike (p p' : String) : Prop :=
  (Utf8.encode p).length = (Utf8.encode p').length ∨
    ((Utf8.encode p).length ≤ maxFieldLength ∧ (Utf8.encode p').length ≤ maxFieldLength)

theorem ofCredential_pair (userName : String) (hcheck : CheckedAlike p p') :
    (∃ e, Login.ofCredential ⟨userName, p⟩ = .error e ∧
      Login.ofCredential ⟨userName, p'⟩ = .error e) ∨
    (Login.ofCredential ⟨userName, p⟩ = .ok ⟨Utf8.encode userName, Utf8.encode p⟩ ∧
      Login.ofCredential ⟨userName, p'⟩ = .ok ⟨Utf8.encode userName, Utf8.encode p'⟩) := by
  simp only [Login.ofCredential, Login.build]
  unfold CheckedAlike at hcheck
  by_cases huser : maxFieldLength < (Utf8.encode userName).length
  · exact .inl ⟨_, if_pos huser, if_pos huser⟩
  · rw [if_neg huser, if_neg huser]
    by_cases hpassword : maxFieldLength < (Utf8.encode p).length
    · have heq : (Utf8.encode p).length = (Utf8.encode p').length := by omega
      rw [← heq]
      exact .inl ⟨_, if_pos hpassword, if_pos hpassword⟩
    · exact .inr ⟨if_neg hpassword, if_neg (by omega)⟩

/-- What a handshake does once the method is known. -/
def settle (login : Login) (destination : Address) (selection : Selection) :
    Conversation HandshakeError Endpoint := do
  authenticate (some login) selection.method
  ask destination

/-- Two handshakes that differ in the password are refused together, or open alike. -/
theorem handshakeSocks5_pair (target : Endpoint) (userName : String)
    (hcheck : CheckedAlike p p') :
    (∃ e, handshakeSocks5 target (some ⟨userName, p⟩) = .fail e ∧
      handshakeSocks5 target (some ⟨userName, p'⟩) = .fail e) ∨
    ∃ destination login login', login = ⟨Utf8.encode userName, Utf8.encode p⟩ ∧
      login' = ⟨Utf8.encode userName, Utf8.encode p'⟩ ∧
      handshakeSocks5 target (some ⟨userName, p⟩) =
        opening (some login) >>= settle login destination ∧
      handshakeSocks5 target (some ⟨userName, p'⟩) =
        opening (some login) >>= settle login' destination := by
  have hmap (c : Credential) : (some c).mapM Login.ofCredential =
      (Login.ofCredential c).map some := by
    rw [Option.mapM_some]
    cases Login.ofCredential c <;> rfl
  obtain ⟨e, h, h'⟩ | ⟨h, h'⟩ := ofCredential_pair userName hcheck
  · left
    simp only [handshakeSocks5, hmap, h, h']
    exact ⟨_, rfl, rfl⟩
  · cases hd : Address.ofEndpoint target with
    | error e =>
      left
      simp only [handshakeSocks5, hmap, h, h', hd]
      exact ⟨_, rfl, rfl⟩
    | ok destination =>
      right
      refine ⟨destination, _, _, rfl, rfl, ?_, ?_⟩
      · rw [handshakeSocks5_eq ((hmap _).trans (congrArg _ h)) hd]
        rfl
      · rw [handshakeSocks5_eq ((hmap _).trans (congrArg _ h')) hd]
        rfl

/-- Without user name and password being asked for, the login makes no difference. -/
theorem settle_congr {selection : Selection} (h : selection.method ≠ .userPassword)
    (login login' : Login) (destination : Address) :
    settle login destination selection = settle login' destination selection := by
  obtain ⟨method⟩ := selection
  cases method with
  | userPassword => exact absurd rfl h
  | _ => rfl

/-- If they are asked for, the runs differ in the password in the message that presents them. -/
theorem run_settle_alike {s : Script} (hs : s.pending = none) {user secret secret' : Bytes}
    (hlength : secret.length = secret'.length) (destination : Address) (selection : Selection) :
    ((settle ⟨user, secret⟩ destination selection).run 0 s).1 =
        ((settle ⟨user, secret'⟩ destination selection).run 0 s).1 ∧
      Script.Alike [] (Login.front user secret.length ++ secret)
        (Login.front user secret.length ++ secret')
        ((settle ⟨user, secret⟩ destination selection).run 0 s).2
        ((settle ⟨user, secret'⟩ destination selection).run 0 s).2 := by
  by_cases hmethod : selection.method = .userPassword
  · have hbytes : (Login.mk user secret').toBytes = Login.front user secret.length ++ secret' := by
      rw [Login.toBytes_eq, hlength]
    have hsize : (Login.front user secret.length ++ secret).length =
        (Login.front user secret.length ++ secret').length := by simp [hlength]
    have halike := Script.run_send_alike hsize
      (fun _ => do
        let reply ← ofSocks LoginReply.receive
        (if reply.version = 1 ∧ reply.status = 0 then pure ()
          else .fail (.authenticationRejected reply.version reply.status)) >>= fun _ =>
            ask destination) s
    have hheld : s.held = [] := by rw [Script.held, hs]; rfl
    rw [hheld] at halike
    rw [settle, settle, hmethod, authenticate_login_bind, authenticate_login_bind, hbytes,
      Login.toBytes_eq]
    exact halike
  · rw [settle_congr hmethod ⟨user, secret⟩ ⟨user, secret'⟩]
    exact ⟨rfl, .refl _⟩

theorem run_handshakeSocks5_alike (target : Endpoint) (userName : String)
    (hlength : (Utf8.encode p).length = (Utf8.encode p').length) (s : Script) :
    ((handshakeSocks5 target (some ⟨userName, p⟩)).run 0 s).1 =
        ((handshakeSocks5 target (some ⟨userName, p'⟩)).run 0 s).1 ∧
      Script.Alike []
        (Login.front (Utf8.encode userName) (Utf8.encode p).length ++ Utf8.encode p)
        (Login.front (Utf8.encode userName) (Utf8.encode p).length ++ Utf8.encode p')
        ((handshakeSocks5 target (some ⟨userName, p⟩)).run 0 s).2
        ((handshakeSocks5 target (some ⟨userName, p'⟩)).run 0 s).2 := by
  obtain ⟨e, h, h'⟩ | ⟨destination, _, _, rfl, rfl, h, h'⟩ :=
    handshakeSocks5_pair target userName (.inl hlength : CheckedAlike p p')
  · rw [h, h']
    exact ⟨rfl, .refl s⟩
  · rw [h, h', run_bind, run_bind]
    rcases hopening : (opening _).run 0 s with ⟨selection | _ | _, t⟩
    · exact run_settle_alike (run_opening_ok hopening).1 hlength destination selection
    · exact ⟨rfl, .refl t⟩
    · exact ⟨rfl, .refl t⟩

/-- Where the server does not choose user name and password, the password makes no difference. -/
theorem run_handshakeSocks5_congr (target : Endpoint) (userName : String)
    (hcheck : CheckedAlike p p') {s : Script}
    (hchoice : (s.readUpTo
      ((handshakeSocks5 target (some ⟨userName, p⟩)).run 0 s).2)[1]? ≠ some 2) :
    (handshakeSocks5 target (some ⟨userName, p⟩)).run 0 s =
      (handshakeSocks5 target (some ⟨userName, p'⟩)).run 0 s := by
  obtain ⟨e, h, h'⟩ | ⟨destination, login, login', -, -, h, h'⟩ :=
    handshakeSocks5_pair target userName hcheck
  · rw [h, h']
  · rw [h, run_bind] at hchoice
    rw [h, h', run_bind, run_bind]
    rcases hopening : (opening (some login)).run 0 s with ⟨selection | _ | _, t⟩
    · rw [hopening] at hchoice
      obtain ⟨-, m, put, hm, hcarries⟩ := run_opening_ok hopening
      obtain ⟨got, put', hbehind⟩ :=
        Script.carries_respects.run (settle login destination selection) t
      have hmethod : selection.method ≠ .userPassword := by
        rintro hpassword
        obtain rfl := eq_two_of_userPassword (hm.symm.trans hpassword)
        refine hchoice ?_
        rw [(hcarries.trans hbehind).readUpTo]
        rfl
      dsimp only
      rw [settle_congr hmethod login login']
    · rfl
    · rfl

end

/-! ## HTTP -/

theorem run_handshakeHttp_alike (target : Endpoint) (userAgent : Option String) (userName : String)
    {p p' : String} (hlength : (Utf8.encode p).length = (Utf8.encode p').length) (s : Script) :
    let front := Utf8.encodeChars (Http.ConnectRequest.front target userAgent)
    let back := Utf8.encodeChars Http.ConnectRequest.back
    let token : String → Bytes := fun p => Credential.token ⟨userName, p⟩
    ((handshakeHttp target (some ⟨userName, p⟩) userAgent).run 0 s).1 =
        ((handshakeHttp target (some ⟨userName, p'⟩) userAgent).run 0 s).1 ∧
      Script.Alike s.held (front ++ token p ++ back) (front ++ token p' ++ back)
        ((handshakeHttp target (some ⟨userName, p⟩) userAgent).run 0 s).2
        ((handshakeHttp target (some ⟨userName, p'⟩) userAgent).run 0 s).2 := by
  intro front back token
  have htoken : (token p).length = (token p').length := by
    rw [Credential.length_token, Credential.length_token, hlength]
  rw [handshakeHttp, handshakeHttp, Http.ConnectRequest.toBytes_credential,
    Http.ConnectRequest.toBytes_credential]
  cases (Http.ConnectRequest.mk target userAgent none).toBytes with
  | error e =>
    dsimp only [Except.map]
    exact ⟨rfl, .refl s⟩
  | ok message => exact Script.run_send_alike (by simpa using htoken) _ s

/-! ## Connections -/

/-- Connections that end in the same way, on streams that differ at most in `field` and `field'`
between what stands around them in a message. -/
structure EndAlike {ε : Type} (held front field field' back : Bytes)
    (r r' : Outcome ε Unit × Tunnel Script) : Prop where
  outcome : r.1 = r'.1
  layers : r.2.layers = r'.2.layers
  length : field.length = field'.length
  carrier : Script.Alike held (front ++ field ++ back) (front ++ field' ++ back)
    r.2.carrier r'.2.carrier

/-- The password a proxy is given changes nothing but its own field in what is sent. A SOCKS4a proxy
is never told it, and a SOCKS5 proxy only if it chooses user name and password: otherwise passwords
of any lengths that pass the check, or fail it alike, make no difference. Of two passwords of the
same length one stands where the other does: in the message of SOCKS5 behind the length, for an HTTP
proxy within the token. -/
theorem connect_password (server target : Endpoint) (userAgent : Option String)
    (userName p p' : String) (s : Script) :
    let user := Utf8.encode userName
    let secret := Utf8.encode p
    let secret' := Utf8.encode p'
    let ask := fun proxy => connect proxy target (⟨s, []⟩ : Tunnel Script)
    ask (.socks4a server (some ⟨userName, p⟩)) = ask (.socks4a server (some ⟨userName, p'⟩)) ∧
      (CheckedAlike p p' →
        (s.readUpTo (ask (.socks5 server (some ⟨userName, p⟩))).2.carrier)[1]? ≠ some 2 →
        ask (.socks5 server (some ⟨userName, p⟩)) = ask (.socks5 server (some ⟨userName, p'⟩))) ∧
      (secret.length = secret'.length →
        EndAlike [] (Login.front user secret.length) secret secret' []
          (ask (.socks5 server (some ⟨userName, p⟩)))
          (ask (.socks5 server (some ⟨userName, p'⟩))) ∧
        EndAlike s.held (Utf8.encodeChars (Http.ConnectRequest.front target userAgent))
          (Credential.token ⟨userName, p⟩) (Credential.token ⟨userName, p'⟩)
          (Utf8.encodeChars Http.ConnectRequest.back)
          (ask (.http server (some ⟨userName, p⟩) userAgent))
          (ask (.http server (some ⟨userName, p'⟩) userAgent))) := by
  intro user secret secret' ask
  have hask (proxy : Proxy) (hp : proxy.protocol ≠ .https) : ask proxy =
      (inContext (proxy, target) (proxy.call target s).1, ⟨(proxy.call target s).2, [.plain]⟩) :=
    connect_plain hp target rfl
  have hsocks5 (p : String) : ask (.socks5 server (some ⟨userName, p⟩)) =
      ((((handshakeSocks5 target (some ⟨userName, p⟩)).run 0 s).1.map fun _ => ()).mapError
          (.handshake .socks5 server),
        ⟨((handshakeSocks5 target (some ⟨userName, p⟩)).run 0 s).2, [.plain]⟩) := by
    rw [hask _ (by simp [Proxy.protocol]), Proxy.call]
    rcases (handshakeSocks5 target (some ⟨userName, p⟩)).run 0 s with ⟨o, t⟩
    rfl
  have hhttp (p : String) : ask (.http server (some ⟨userName, p⟩) userAgent) =
      (((handshakeHttp target (some ⟨userName, p⟩) userAgent).run 0 s).1.mapError
          (.handshake .http server),
        ⟨((handshakeHttp target (some ⟨userName, p⟩) userAgent).run 0 s).2, [.plain]⟩) := by
    rw [hask _ (by simp [Proxy.protocol]), Proxy.call]
    rfl
  refine ⟨?_, fun hcheck hchoice => ?_, fun hlength => ⟨?_, ?_⟩⟩
  · rw [hask _ (by simp [Proxy.protocol]), hask _ (by simp [Proxy.protocol])]
    rfl
  · rw [hsocks5] at hchoice
    rw [hsocks5, hsocks5, run_handshakeSocks5_congr target userName hcheck hchoice]
  · obtain ⟨ho, halike⟩ := run_handshakeSocks5_alike target userName hlength s
    rw [hsocks5, hsocks5]
    refine ⟨?_, rfl, hlength, ?_⟩
    · rw [ho]
    · rw [List.append_nil, List.append_nil]
      exact halike
  · obtain ⟨ho, halike⟩ := run_handshakeHttp_alike target userAgent userName hlength s
    rw [hhttp, hhttp]
    refine ⟨?_, rfl, ?_, halike⟩
    · rw [ho]
    · rw [Credential.length_token, Credential.length_token, hlength]

/-- A server that asks for no password is told none, be it short or long; where one is asked for,
two of three bytes are told apart by nothing else. -/
theorem connect_password_three :
    let server : Endpoint := .socket (.v4 ⟨10, 0, 0, 1⟩ 1080)
    let target : Endpoint := .socket (.v4 ⟨10, 0, 0, 2⟩ 80)
    let free : Script := { items := [.data [5, 0, 5, 0, 0, 1, 0, 0, 0, 0, 0, 0]] }
    let wary : Script := { items := [.data [5, 2, 1, 1]] }
    let ask := fun (s : Script) p =>
      connect (.socks5 server (some ⟨"user", p⟩)) target (⟨s, []⟩ : Tunnel Script)
    ask free "a" = ask free "abc" ∧
      EndAlike [] [1, 4, 117, 115, 101, 114, 3] [97, 98, 99] [120, 121, 122] []
        (ask wary "abc") (ask wary "xyz") := by
  intro server target free wary ask
  have hfree := connect_password server target none "user" "a" "abc" free
  have hwary := connect_password server target none "user" "abc" "xyz" wary
  have hchoice : (free.readUpTo (ask free "a").2.carrier)[1]? ≠ some 2 := by
    rw [Script.readUpTo, List.getElem?_take]
    split
    · exact (by decide : free.unread[1]? ≠ some 2)
    · nofun
  exact ⟨hfree.2.1 (.inr ⟨by decide, by decide⟩) hchoice, (hwary.2.2 (by decide)).1⟩

end ProxyTunnel
