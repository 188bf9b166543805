import ProxyTunnel.Proofs.Handshake.Socks5
import ProxyTunnel.Proofs.Stream.Moments

/-!
# What the SOCKS5 handshake tells a server, and when

User name, password and request go to a server only after it has said what they answer (`Turn`).
That holds at every moment of every run, whatever the stream does: how it cuts what it delivers and
takes, where it fails, ends or stands still.

* `guarded_handshakeSocks5`: each message is written in its turn;
* `handshakeSocks5_discreet`: what a recorded run does from its first operation to its last.
-/

namespace ProxyTunnel

open Conversation Socks

namespace Socks5

/-- When the server has said `heard` and the client `said`, it is the turn of the message `m`. -/
inductive Turn (login : Option Login) (destination : Address) : (heard said m : Bytes) → Prop where
  | greeting : Turn login destination [] [] (greeting login)
  | login {x : Login} (h : login = some x) :
    Turn login destination [5, 2] (Socks5.greeting login) x.toBytes
  | free : Turn login destination [5, 0] (Socks5.greeting login) (Request.mk destination).toBytes
  | loggedIn {x : Login} (h : login = some x) :
    Turn login destination [5, 2, 1, 0] (Socks5.greeting login ++ x.toBytes)
      (Request.mk destination).toBytes

/-- All that the client ever says, if the server keeps letting it go on. -/
inductive Speech (login : Option Login) (destination : Address) : Bytes → Prop where
  | free : Speech login destination (greeting login ++ (Request.mk destination).toBytes)
  | loggedIn {x : Login} (h : login = some x) :
    Speech login destination (greeting login ++ x.toBytes ++ (Request.mk destination).toBytes)

/-- What the handshake may do on a stream, from its first operation on. -/
structure Discreet (login : Option Login) (destination : Address) (events : List Event) : Prop where
  /-- All that was taken so far is the beginning of what the client has to say. -/
  said {before : List Event} (h : before <+: events) : ∃ speech,
    Speech login destination speech ∧ ((Moment.pass {} before).said) <+: speech
  /-- What is offered to the stream is the rest of a message whose turn it is. -/
  turn {before after : List Event} {offered : Bytes} {taken : Outcome Fault Nat}
    (h : events = before ++ .write offered taken :: after) : ∃ said done,
      Turn login destination (Moment.pass {} before).heard said (done ++ offered) ∧
        (Moment.pass {} before).said = said ++ done
  /-- Everything was flushed before anything is read. -/
  flushed {before after : List Event} {got : Outcome Fault Bytes}
    (h : events = before ++ .read got :: after) : (Moment.pass {} before).unflushed = []
  /-- Nothing is done any more once an operation has failed. -/
  stops {before after : List Event} {e : Event} (h : events = before ++ e :: after)
    (he : e.goesOn = false) : after = []

section

variable {login : Option Login} {destination : Address} {heard said : Bytes}

theorem guarded_ask (h : Turn login destination heard said (Request.mk destination).toBytes) :
    (ask destination).Guarded (Turn login destination) heard said := by
  rw [ask_eq]
  refine ⟨h, Reply.listens_receive.guarded_bind fun reply first _ => ?_⟩
  cases decision (.ok reply) <;> trivial

theorem guarded_authenticate (m : UInt8) :
    (authenticate login (.ofCode m) >>= fun _ => ask destination).Guarded (Turn login destination)
      [5, m] (greeting login) := by
  by_cases h₀ : m = 0
  · subst h₀
    exact guarded_ask .free
  by_cases h₂ : m = 2
  · subst h₂
    cases login with
    | none => trivial
    | some x =>
      show (authenticate (some x) .userPassword >>= fun _ => ask destination).Guarded _ _ _
      rw [authenticate_login_bind]
      refine ⟨.login rfl, LoginReply.listens_receive.guarded_bind fun reply first h => ?_⟩
      obtain ⟨l', h⟩ := h {}
      obtain ⟨v, st, rfl, hr, -⟩ := hears_loginReply.mp h
      cases hr
      by_cases hv : v = 1 ∧ st = 0
      · rw [if_pos hv]
        obtain ⟨rfl, rfl⟩ := hv
        exact guarded_ask (.loggedIn rfl)
      · rw [if_neg hv]
        trivial
  · rw [authenticate_unsupported ⟨h₀, h₂⟩]
    trivial

theorem guarded_handshakeSocks5 {target : Endpoint} {credential : Option Credential}
    (hl : credential.mapM Login.ofCredential = .ok login)
    (hd : Address.ofEndpoint target = .ok destination) :
    (handshakeSocks5 target credential).Guarded (Turn login destination) [] [] := by
  rw [handshakeSocks5_eq hl hd]
  refine ⟨.greeting, Selection.listens_receive.guarded_bind fun selection first h => ?_⟩
  obtain ⟨l', h⟩ := h {}
  obtain ⟨v, m, rfl, -, hs⟩ := hears_selection.mp h
  split at hs
  · cases hs
    subst v
    exact guarded_authenticate m
  · cases hs

/-- With the message whose turn it is, the client has said nothing that it should not. -/
theorem Turn.speech {m : Bytes} (h : Turn login destination heard said m) :
    ∃ speech, Speech login destination speech ∧ said ++ m <+: speech := by
  cases h with
  | greeting => exact ⟨_, .free, List.prefix_append _ _⟩
  | login h => exact ⟨_, .loggedIn h, List.prefix_append _ _⟩
  | free => exact ⟨_, .free, List.prefix_refl _⟩
  | loggedIn h => exact ⟨_, .loggedIn h, List.prefix_refl _⟩

/-- Operations that are proper keep what was said within what the client has to say. -/
theorem speech_of_each {t : Moment} {before : List Event}
    (ht : ∃ speech, Speech login destination speech ∧ t.said <+: speech)
    (h : t.Each (Proper (Turn login destination)) before) :
    ∃ speech, Speech login destination speech ∧ (t.pass before).said <+: speech := by
  induction before generalizing t with
  | nil => exact ht
  | cons e before ih =>
    refine ih ?_ h.2
    show ∃ speech, Speech login destination speech ∧ t.said ++ e.put <+: speech
    rcases e.put_eq_nil_or with hput | ⟨offered, n, rfl⟩
    · rwa [hput, List.append_nil]
    · obtain ⟨said, done, hturn, hsaid⟩ := h.1
      obtain ⟨speech, hs, hprefix⟩ := hturn.speech
      refine ⟨speech, hs, List.IsPrefix.trans ?_ hprefix⟩
      rw [hsaid, List.append_assoc]
      exact (List.prefix_append_right_inj _).mpr
        ((List.prefix_append_right_inj _).mpr (List.take_prefix n offered))

theorem discreet_of_does {s : Script} {r : Recorder} {events : List Event}
    (h : Does (Turn login destination) {} ⟨s, []⟩ r events) : Discreet login destination r.events := by
  have hevents : r.events = events := h.record
  rw [hevents]
  constructor
  · intro before hprefix
    obtain ⟨after, rfl⟩ := hprefix
    exact speech_of_each ⟨_, .free, List.nil_prefix⟩ h.proper.of_append
  · rintro before after offered taken rfl
    exact h.proper.at
  · rintro before after got rfl
    exact h.proper.at
  · rintro before after e rfl he
    exact h.unbroken.eq_nil he

/-- On any stream, a handshake either is refused before it does anything, or says its messages one
after another, each when it is its turn, and stops at the first operation that fails. -/
theorem handshakeSocks5_discreet (target : Endpoint) (credential : Option Credential) (s : Script) :
    let run := (handshakeSocks5 target credential).run 0 (⟨s, []⟩ : Recorder)
    (run.1, run.2.script) = (handshakeSocks5 target credential).run 0 s ∧
      ((∃ e, run.1 = .error e ∧ e.IsLocal ∧ run.2.events = []) ∨
        ∃ login destination, credential.mapM Login.ofCredential = .ok login ∧
          Address.ofEndpoint target = .ok destination ∧
          Discreet login destination run.2.events) := by
  intro run
  obtain ⟨ho, hs⟩ := Recorder.run_recorder (handshakeSocks5 target credential) ⟨s, []⟩
  refine ⟨Prod.ext ho hs, ?_⟩
  have hrefused (e : HandshakeError) (he : e.IsLocal)
      (h : handshakeSocks5 target credential = .fail e) :
      run.1 = .error e ∧ e.IsLocal ∧ run.2.events = [] := by
    have hrun : run = (.error e, ⟨s, []⟩) := by
      show (handshakeSocks5 target credential).run 0 (⟨s, []⟩ : Recorder) = _
      rw [h, Conversation.run]
    rw [hrun]
    exact ⟨rfl, he, rfl⟩
  cases hl : credential.mapM Login.ofCredential with
  | error e =>
    refine .inl ⟨_, hrefused (.ofSocks e) (isLocal_of_login hl) ?_⟩
    rw [handshakeSocks5, hl]
    rfl
  | ok login =>
  cases hd : Address.ofEndpoint target with
  | error e =>
    refine .inl ⟨_, hrefused (.ofSocks e) (isLocal_of_address hd) ?_⟩
    rw [handshakeSocks5, hl, hd]
    rfl
  | ok destination =>
    obtain ⟨events, hdoes⟩ := (orderly_handshakeSocks5 target credential).run_does (t := {})
      (guarded_handshakeSocks5 hl hd) rfl ⟨s, []⟩
    exact .inr ⟨login, destination, rfl, rfl, discreet_of_does hdoes⟩

end

end Socks5

end ProxyTunnel
