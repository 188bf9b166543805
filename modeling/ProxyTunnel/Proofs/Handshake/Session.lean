import ProxyTunnel.Proofs.Handshake.Socks5
import ProxyTunnel.Proofs.Socks.Version5
import ProxyTunnel.Proofs.Stream.Heard

/-!
# SOCKS5 handshakes from the other side

A server that reads the messages of a client by their layout alone finds in them all that the client
was asked to present, and it never reads too much or too little.

* `Session`: the messages of a client, read one by one; `Session.serve`: and read as one;
* `Opening.session`: what a client says up to its request is read, however it was let in;
* `handshakeSocks5_session`: so every handshake that succeeds was understood.
-/

namespace ProxyTunnel.Socks5

open Text Socks Conversation

/-- The methods that are offered. -/
def offered : Option Login → Bytes
  | none => [0]
  | some _ => [0, 2]

theorem reads_greeting (login : Option Login) :
    Reads readGreeting (greeting login) (offered login) := by
  intro rest
  cases login with
  | none => exact field?_append (show [0].length = UInt8.toNat 1 from rfl) rest
  | some x => exact field?_append (show [0, 2].length = UInt8.toNat 2 from rfl) rest

/-! ## Whole conversations -/

/-- The messages of a client that had read `start` bytes before, each sent when it had read the
answer to the one before, and each read by the server to its last byte. -/
inductive Session (start : Nat) : (choice : UInt8) → List Message → Reading → Prop where
  | free {g r methods : Bytes} {destination : Destination} (hg : Reads readGreeting g methods)
    (hr : Reads readRequest r destination) :
    Session start 0 [⟨start, g⟩, ⟨start + 2, r⟩] ⟨methods, none, destination⟩
  | loggedIn {g l r methods : Bytes} {x : Login} {destination : Destination}
    (hg : Reads readGreeting g methods) (hl : Reads readLogin l x)
    (hr : Reads readRequest r destination) :
    Session start 2 [⟨start, g⟩, ⟨start + 2, l⟩, ⟨start + 4, r⟩] ⟨methods, some x, destination⟩

/-- Who reads the messages one by one can read them as a whole. -/
theorem Session.serve {start : Nat} {choice : UInt8} {said : List Message} {reading : Reading}
    (h : Session start choice said reading) :
    Reads (Socks5.serve choice) (said.flatMap Message.bytes) reading := by
  intro rest
  cases h with
  | @free g r _ _ hg hr =>
    have hbytes : [Message.mk start g, ⟨start + 2, r⟩].flatMap Message.bytes ++ rest =
        g ++ (r ++ rest) := by
      simp only [List.flatMap_cons, List.flatMap_nil, List.append_nil, List.append_assoc]
    rw [hbytes, Socks5.serve, hg.bind]
    exact hr.bind rest _
  | @loggedIn g l r _ _ _ hg hl hr =>
    have hbytes : [Message.mk start g, ⟨start + 2, l⟩, ⟨start + 4, r⟩].flatMap Message.bytes ++
        rest = g ++ (l ++ (r ++ rest)) := by
      simp only [List.flatMap_cons, List.flatMap_nil, List.append_nil, List.append_assoc]
    rw [hbytes, Socks5.serve, hg.bind]
    dsimp only
    rw [(reads_chosen hl).bind]
    exact hr.bind rest _

/-- However a client was let in, what it says up to its request is read as what it stands for. -/
theorem Opening.session {login : Option Login} {destination : Address} {start : Nat}
    {opening : Bytes} {before : List Message} (h : Opening login start opening before)
    (hlogin : ∀ x, login = some x →
      x.userName.length ≤ maxFieldLength ∧ x.password.length ≤ maxFieldLength)
    (hfits : destination.Fits) :
    ∃ choice answer, opening = [5, choice] ++ answer ∧
      Session start choice
        (before ++ [⟨start + opening.length, (Request.mk destination).toBytes⟩])
        ⟨offered login, if choice = 2 then login else none, .of destination.endpoint⟩ := by
  cases h with
  | free => exact ⟨0, [], rfl, .free (reads_greeting login) (reads_request hfits)⟩
  | loggedIn h =>
    subst h
    obtain ⟨hu, hp⟩ := hlogin _ rfl
    exact ⟨2, [1, 0], rfl,
      .loggedIn (reads_greeting _) (reads_login hu hp) (reads_request hfits)⟩

/-- What a server that chooses a method is to understand. -/
def Reading.of (target : Endpoint) (credential : Option Credential) (choice : UInt8) : Reading where
  methods := if credential = none then [0] else [0, 2]
  login := if choice = 2 then credential.map .of else none
  destination := .of target.normalize

theorem offered_map (credential : Option Credential) :
    offered (credential.map .of) = if credential = none then [0] else [0, 2] := by
  cases credential <;> rfl

theorem checked_of_run {target : Endpoint} {credential : Option Credential} {s s' : Script}
    {b : Endpoint} (h : (handshakeSocks5 target credential).run 0 s = (.ok b, s')) :
    ∃ login destination, credential.mapM Login.ofCredential = .ok login ∧
      Address.ofEndpoint target = .ok destination := by
  cases hl : credential.mapM Login.ofCredential with
  | error e =>
    rw [handshakeSocks5, hl] at h
    cases h
  | ok login =>
  cases hd : Address.ofEndpoint target with
  | error e =>
    rw [handshakeSocks5, hl, hd] at h
    cases h
  | ok destination => exact ⟨login, destination, rfl, rfl⟩

/-- Whatever may go wrong on a stream: if a handshake succeeds on it, then the server has chosen a
method, and reads from the messages of the client the methods offered, user name and password if it
asked for them, and the target, each message to its last byte and nothing behind the request.
Messages for user name and password are refused exactly if one of them is too long, the user name
first. -/
theorem handshakeSocks5_session :
    (∀ (target : Endpoint) (credential : Option Credential) (s s' : Script) (b : Endpoint),
      s.pending = none → (handshakeSocks5 target credential).run 0 s = (.ok b, s') →
      ∃ choice answers said, s.unread = [5, choice] ++ answers ++ s'.unread ∧
        s'.sent = s.sent ++ said ∧ s'.pending = none ∧
        Session s.consumed choice said (.of target credential choice) ∧
        ∀ rest, serve choice (said.flatMap Message.bytes ++ rest) =
          some (.of target credential choice, rest)) ∧
    ∀ userName password : Bytes,
      (∀ e, Login.build userName password = .error e ↔
        (255 < userName.length ∧ e = .userNameTooLong userName.length) ∨
          userName.length ≤ 255 ∧ 255 < password.length ∧ e = .passwordTooLong password.length) ∧
      (userName.length ≤ 255 → password.length ≤ 255 →
        Login.build userName password = .ok ⟨userName, password⟩) := by
  refine ⟨fun target credential s s' b hp hrun => ?_, fun userName password =>
    ⟨fun e => Login.build_eq_error, fun hu hpw => Login.build_eq_ok.mpr ⟨hu, hpw, rfl⟩⟩⟩
  obtain ⟨login, destination, hl, hd⟩ := checked_of_run hrun
  obtain ⟨rfl, hlogin⟩ := Login.of_mapM_eq_ok hl
  obtain ⟨hendpoint, hfits⟩ := Address.ofEndpoint_eq_ok hd
  obtain ⟨heard, put, hheard, hcarries⟩ := hears_of_run hrun
  rw [Script.ledger_of_settled hp] at hheard
  obtain ⟨said, hverdict, hledger⟩ := (hears_handshakeSocks5 hl hd).mp hheard
  generalize hr : Except.ok b = r at hverdict
  cases hverdict with
  | @answered opening answer before reply ho ha =>
    obtain ⟨choice, rest, rfl, hsession⟩ := ho.session hlogin hfits
    have hreading : Reading.mk (offered (credential.map .of))
        (if choice = 2 then credential.map .of else none) (.of destination.endpoint) =
        .of target credential choice := by
      rw [offered_map, hendpoint]
      rfl
    rw [hreading] at hsession
    refine ⟨choice, rest ++ answer, _, ?_, congrArg Ledger.sent hledger,
      congrArg Ledger.pending hledger, hsession, hsession.serve⟩
    rw [hcarries.unread]
    simp only [List.append_assoc]
  | _ => cases hr

/-- A server that asks for user name and password, and sends its reply with the first byte of the
tunnel. -/
theorem handshakeSocks5_session_loggedIn :
    let s : Script := { items := [.data [5], .data [2, 1, 0, 5, 0, 7],
      .data [1, 10, 0, 0, 1, 0, 80, 42]] }
    let run := (handshakeSocks5 (.domain "10.0.0.7" 22) (some ⟨"é", "x"⟩)).run 0 s
    s.pending = none ∧ run.1 = .ok (.socket (.v4 ⟨10, 0, 0, 1⟩ 80)) ∧
      ∀ rest, serve 2 (run.2.sent.flatMap Message.bytes ++ rest) =
        some (⟨[0, 2], some ⟨[195, 169], [120]⟩, ⟨.ipv4 ⟨10, 0, 0, 7⟩, 22⟩⟩, rest) := by
  intro s run
  have hl : (some (Credential.mk "é" "x")).mapM Login.ofCredential =
      .ok (some ⟨[195, 169], [120]⟩) := by rfl
  have hd : Address.ofEndpoint (.domain "10.0.0.7" 22) =
      .ok ⟨.socket (.v4 ⟨10, 0, 0, 7⟩ 22)⟩ := by rfl
  have hs : s.Says (([5, 2, 1, 0] ++ [5, 0, 7, 1, 10, 0, 0, 1, 0, 80]) ++ [42]) :=
    ⟨.data [5] (.data [2, 1, 0, 5, 0, 7] (.data [1, 10, 0, 0, 1, 0, 80, 42] .nil)), by decide, rfl,
      rfl⟩
  have hanswer : Answer [5, 0, 7, 1, 10, 0, 0, 1, 0, 80]
      (.ok ⟨.success, ⟨.socket (.v4 ⟨10, 0, 0, 1⟩ 80)⟩⟩) :=
    .reply 0 7 (.mk (.ipv4 ⟨10, 0, 0, 1⟩ 80))
  have hrun := (run_of_verdict hl hd rfl hs (.answered (.loggedIn rfl) hanswer)).1
  obtain ⟨choice, answers, said, hunread, hsent, -, -, hserve⟩ := handshakeSocks5_session.1
    (.domain "10.0.0.7" 22) (some ⟨"é", "x"⟩) s run.2 _ rfl (Prod.ext hrun rfl)
  obtain ⟨rfl, -⟩ : 2 = choice ∧ _ := List.cons.inj (List.cons.inj hunread).2
  have hreading : Reading.of (.domain "10.0.0.7" 22) (some ⟨"é", "x"⟩) 2 =
      ⟨[0, 2], some ⟨[195, 169], [120]⟩, ⟨.ipv4 ⟨10, 0, 0, 7⟩, 22⟩⟩ := by rfl
  refine ⟨rfl, hrun, fun rest => ?_⟩
  rw [hsent, ← hreading]
  exact hserve rest

end ProxyTunnel.Socks5
