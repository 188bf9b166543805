import ProxyTunnel.Proofs.Client.Stacked
import ProxyTunnel.Proofs.Handshake.Orderly
import ProxyTunnel.Proofs.Stream.Cancellation

/-!
# Connections that are given up

A connection that is never told to give up is an ordinary one, and one that was told beforehand does
nothing. If it is told on the way, when it reads behind the first `c` bytes, then it ends as it
would have ended, unless it does read there: then it has read `c` bytes and sent what it would have
sent up to then (`connectCancellable_exact`).

* `Orderly.run_cancelledAt`: the same for a run of any orderly conversation, by induction on it.
-/

namespace ProxyTunnel

open Script

/-! ## What is sent from some point on -/

/-- What holds of the messages sent from `s` on: none of them was begun before so many bytes were
read as in `s`, or before what was waiting for a flush there. -/
def Script.Later (s s' : Script) : Prop :=
  ∀ n ≤ s.consumed, (∀ m ∈ s.pending, n ≤ m.readBefore) →
    n ≤ s'.consumed ∧ (∀ m ∈ s'.pending, n ≤ m.readBefore) ∧
      ∃ new, s'.sent = s.sent ++ new ∧ ∀ m ∈ new, n ≤ m.readBefore

theorem take_later (s : Script) (bs : Bytes) : s.Later (s.take bs) := by
  intro n hn hpending
  refine ⟨by rwa [consumed_take], ?_, [], by rw [sent_take, List.append_nil], nofun⟩
  rw [take]
  split
  · exact hpending
  · rintro m ⟨⟩
    cases hp : s.pending with
    | none => exact hn
    | some x => exact hpending x hp

theorem later_respects : Carrier.Respects 0 Script.Later where
  refl s n hn hpending := ⟨hn, hpending, [], (List.append_nil _).symm, nofun⟩
  trans := by
    intro s₁ s₂ s₃ h h' n hn hpending
    obtain ⟨hn₂, hp₂, new, hnew, hle⟩ := h n hn hpending
    obtain ⟨hn₃, hp₃, new', hnew', hle'⟩ := h' n hn₂ hp₂
    refine ⟨hn₃, hp₃, new ++ new', by rw [hnew', hnew, List.append_assoc], ?_⟩
    exact List.forall_mem_append.mpr ⟨hle, hle'⟩
  accept bs s := by
    rw [accept_eq]
    exact take_later s _
  flush s := by
    rcases s.flush_cases with h | ⟨f, h⟩ <;> rw [h]
    · intro n hn hpending
      exact ⟨hn, nofun, s.pending.toList, rfl, by simpa using hpending⟩
    · intro n hn hpending
      exact ⟨hn, hpending, [], (List.append_nil _).symm, nofun⟩
  receive k atEnd s := by
    rw [receive_snd]
    intro n hn hpending
    exact ⟨Nat.le_add_right_of_le hn, hpending, [], (List.append_nil _).symm, nofun⟩

/-- Once everything was flushed, messages are begun where the stream was read up to, or later. -/
theorem sent_of_run {ε α : Type} (c : Conversation ε α) {s : Script} (hs : s.pending = none) :
    ∃ new, (c.run 0 s).2.sent = s.sent ++ new ∧ ∀ m ∈ new, s.consumed ≤ m.readBefore :=
  (later_respects.run c s s.consumed (Nat.le_refl _) (by simp [hs])).2.2

/-! ## Nobody calls to give up -/

/-- Nothing that may come tells to give up, and nothing has. -/
def Script.Uncancelled (s : Script) : Prop := .cancel ∉ s.items ∧ s.isCancelled = false

theorem cancel_mem_of_fetch {written n : Nat} {isShut : Bool} {items : List ReadItem} :
    (.cancel ∈ (fetch written isShut items n).items → .cancel ∈ items) ∧
      ((fetch written isShut items n).stop = .cancelled → .cancel ∈ items) := by
  fun_induction fetch written isShut items n <;> simp_all [Fetched.cons, putBack]
  split <;> simp_all

theorem uncancelled_respects :
    Carrier.Respects 0 fun s s' => Script.Uncancelled s → s'.Uncancelled where
  refl _ := id
  trans h h' := h' ∘ h
  accept bs s h := by
    rw [accept_eq]
    exact ⟨by rw [items_take]; exact h.1, by rw [isCancelled_take]; exact h.2⟩
  flush s h := by
    rcases s.flush_cases with hflush | ⟨f, hflush⟩ <;> rw [hflush]
    · exact h
    · exact h
  receive n atEnd s h := by
    rw [receive_snd]
    have hstop : (s.fetched n).stop ≠ .cancelled := fun hstop =>
      h.1 (cancel_mem_of_fetch.2 hstop)
    exact ⟨fun hmem => h.1 (cancel_mem_of_fetch.1 hmem), by simp [advance, h.2, hstop]⟩

/-! ## Runs that are told to give up -/

/-- The stream `s'` of a run from `s` that gave up behind `c` bytes, beside the stream `u` of the
run that was not told to: so many bytes were read, and the messages sent that were begun by then. -/
structure Script.GivesUp (c : Nat) (s u s' : Script) : Prop where
  told : s'.isCancelled = true
  consumed : s'.consumed = s.consumed + c
  pending : s'.pending = none
  sent : ∃ new, u.sent = s.sent ++ new ∧
    s'.sent = s.sent ++ new.filter fun m => m.readBefore ≤ s.consumed + c

/-- What was read and sent in front of a part of a run that gives up. -/
theorem Script.GivesUp.behind {c c₁ : Nat} {s s₁ u s' : Script} (h : GivesUp c₁ s₁ u s')
    (hconsumed : s₁.consumed + c₁ = s.consumed + c) {ms : List Message}
    (hsent : s₁.sent = s.sent ++ ms) (hms : ∀ m ∈ ms, m.readBefore ≤ s.consumed + c) :
    GivesUp c s u s' := by
  obtain ⟨new, hu, hs'⟩ := h.sent
  have hkept : ms.filter (fun m => m.readBefore ≤ s.consumed + c) = ms :=
    List.filter_eq_self.mpr (by simpa using hms)
  refine ⟨h.told, h.consumed.trans hconsumed, h.pending, ms ++ new, ?_, ?_⟩
  · rw [hu, hsent, List.append_assoc]
  · rw [hs', hsent, hconsumed, List.filter_append, List.append_assoc, hkept]

namespace Conversation

variable {α : Type}

/-- How a recorded run, and the same run on the stream that calls to give up, go together. -/
structure Halts (k : Nat) (c : Conversation HandshakeError α) (r : Recorder)
    (events : List Event) : Prop where
  record : (c.run 0 r).2.events = r.events ++ events
  goesOn : ¬ReadsBehind k events → c.run 0 (r.script.cancelledAt k) =
    ((c.run 0 r.script).1, (c.run 0 r.script).2.cancelledAt
      (r.script.consumed + k - (c.run 0 r.script).2.consumed))
  givesUp : ReadsBehind k events → ∃ s', c.run 0 (r.script.cancelledAt k) = (.stalled, s') ∧
    Script.GivesUp k r.script (c.run 0 r.script).2 s'

/-- A run that ends, on all three streams, before it reads behind `k` bytes. -/
theorem Halts.of_ends {k j : Nat} {c : Conversation HandshakeError α} {r : Recorder}
    {events : List Event} {o : Outcome HandshakeError α} {u : Script}
    (hr : c.run 0 r = (o, ⟨u, r.events ++ events⟩)) (hs : c.run 0 r.script = (o, u))
    (hcut : c.run 0 (r.script.cancelledAt k) = (o, u.cancelledAt j))
    (hfront : ¬ReadsBehind k events) (hconsumed : u.consumed + j = r.script.consumed + k) :
    Halts k c r events := by
  refine ⟨by rw [hr], fun _ => ?_, fun h => absurd h hfront⟩
  rw [hcut, hs, ← hconsumed, Nat.add_sub_cancel_left]

/-- A run that gets on, on all three streams, without reading behind `k` bytes. -/
theorem Halts.getsOn {k k₁ : Nat} {c c₁ : Conversation HandshakeError α} {r r₁ : Recorder}
    {es fs : List Event} (h : Halts k₁ c₁ r₁ fs) (hr : c.run 0 r = c₁.run 0 r₁)
    (hs : c.run 0 r.script = c₁.run 0 r₁.script)
    (hcut : c.run 0 (r.script.cancelledAt k) = c₁.run 0 (r₁.script.cancelledAt k₁))
    (hrecord : r₁.events = r.events ++ es)
    (hreads : ReadsBehind k (es ++ fs) ↔ ReadsBehind k₁ fs)
    (hconsumed : r₁.script.consumed + k₁ = r.script.consumed + k) {ms : List Message}
    (hsent : r₁.script.sent = r.script.sent ++ ms)
    (hms : ∀ m ∈ ms, m.readBefore ≤ r.script.consumed + k) : Halts k c r (es ++ fs) := by
  refine ⟨?_, fun hfront => ?_, fun hbehind => ?_⟩
  · rw [hr, h.record, hrecord, List.append_assoc]
  · rw [hcut, hs, h.goesOn (hreads.not.mp hfront), hconsumed]
  · obtain ⟨s', hrun, hgives⟩ := h.givesUp (hreads.mp hbehind)
    rw [hcut, hs]
    exact ⟨s', hrun, hgives.behind hconsumed hsent hms⟩

theorem pending_take {s : Script} (hs : s.pending = none) (m : Bytes) :
    ∀ x ∈ (s.take m).pending, x.readBefore = s.consumed := by
  rw [take]
  split
  · simp [hs]
  · rintro x ⟨⟩
    rw [hs]

/-- A flush hands on what waits for it as if nothing called to give up. -/
theorem halts_flush {next : Conversation HandshakeError α} {k : Nat} {r : Recorder}
    (hpending : ∀ x ∈ r.script.pending, x.readBefore ≤ r.script.consumed + k)
    (ih : ∀ r : Recorder, r.script.pending = none → ∃ events, Halts k next r events) :
    ∃ events, Halts k (.flush .flush next) r events := by
  have hreach (o : Outcome Fault Unit) : ∀ e ∈ [Event.flush o], e.reach = 0 := by
    simp [Event.reach]
  have hr : Carrier.flush 0 r = ((Carrier.flush 0 r.script).1,
      ⟨(Carrier.flush 0 r.script).2, r.events ++ [.flush (Carrier.flush 0 r.script).1]⟩) := rfl
  have hcut := flush_cancelledAt k r.script
  rcases r.script.flush_cases with hs | ⟨f, hs⟩ <;> rw [hs] at hr hcut <;>
    dsimp only at hr hcut
  · obtain ⟨fs, h⟩ := ih ⟨r.script.flushed, r.events ++ [.flush (.ok ())]⟩ rfl
    refine ⟨_, h.getsOn ?_ ?_ ?_ rfl (readsBehind_append_of_reach (hreach _) k fs) rfl
      (sent_flushed r.script) fun x hx => hpending x (by simpa using hx)⟩
    · rw [run, hr]
    · rw [run, hs]
    · rw [run, hcut]
  · exact ⟨_, .of_ends (u := { r.script with flushes := r.script.flushes + 1 })
      (by rw [run, hr]) (by rw [run, hs]) (by rw [run, hcut])
      (not_readsBehind_of_reach (hreach (.error f)) k) rfl⟩

/-- A message is written as if nothing called to give up. -/
theorem halts_write {m : Bytes} {f : Fault → HandshakeError}
    {next : Conversation HandshakeError α} {k : Nat} {r : Recorder}
    (ih : ∀ n events, ∃ fs, Halts k next ⟨r.script.take (m.take n), events⟩ fs) :
    ∃ events, Halts k (.write m f next) r events := by
  obtain ⟨o, n, es, hs, hr, hreach⟩ := r.acceptAll_eq m.length m
  have hcut := acceptAll_cancelledAt k r.script m.length m
  have hplace : (r.script.take (m.take n)).consumed + k = r.script.consumed + k := by
    rw [consumed_take]
  have hstays := not_readsBehind_of_reach hreach k
  rw [hs] at hcut
  rcases o with _ | e | _
  · obtain ⟨fs, h⟩ := ih n (r.events ++ es)
    have hsent : (r.script.take (m.take n)).sent = r.script.sent ++ [] := by
      rw [sent_take, List.append_nil]
    refine ⟨_, h.getsOn ?_ ?_ ?_ rfl (readsBehind_append_of_reach hreach k fs) hplace hsent nofun⟩
    · rw [run, Carrier.write, hr]
    · rw [run, Carrier.write, hs]
    · rw [run, Carrier.write, hcut]
  · exact ⟨es, .of_ends (by rw [run, Carrier.write, hr]) (by rw [run, Carrier.write, hs])
      (by rw [run, Carrier.write, hcut]) hstays hplace⟩
  · exact ⟨es, .of_ends (by rw [run, Carrier.write, hr]) (by rw [run, Carrier.write, hs])
      (by rw [run, Carrier.write, hcut]) hstays hplace⟩

theorem halts_send {m : Bytes} {next : Conversation HandshakeError α} {k : Nat} {r : Recorder}
    (hs : r.script.pending = none)
    (ih : ∀ r : Recorder, r.script.pending = none → ∃ events, Halts k next r events) :
    ∃ events, Halts k (.write m .write (.flush .flush next)) r events := by
  refine halts_write fun n events => halts_flush (fun x hx => ?_) ih
  rw [pending_take hs (m.take n) x hx, consumed_take]
  exact Nat.le_add_right _ _

section

variable {n : Nat} {z : Fault} {f : Fault → HandshakeError}
  {next : Vector UInt8 n → Conversation HandshakeError α} {k : Nat} {r : Recorder}

/-- A wait in front of the place. -/
theorem halts_receive_before (hs : r.script.pending = none)
    (hfront : (r.script.fetched n).reach ≤ k)
    (ih : ∀ v k (r : Recorder), r.script.pending = none → ∃ events, Halts k (next v) r events) :
    ∃ events, Halts k (.receive n z f next) r events := by
  obtain ⟨o, es, hrun, hr, hlength, hreach⟩ := r.receive_eq n z
  have hcut := receive_cancelledAt k r.script hfront z
  rw [hrun] at hcut
  have hstays : ¬ReadsBehind k es := fun h => absurd ((hreach k).mp h) (Nat.not_lt.mpr hfront)
  have hplace : (r.script.advance (r.script.fetched n)).consumed +
      (k - (r.script.fetched n).bytes.length) = r.script.consumed + k := by
    have hle := (r.script.fetched n).length_le_reach
    rw [consumed_advance]
    omega
  rcases o with v | e | _
  · obtain ⟨fs, h⟩ := ih v (k - (r.script.fetched n).bytes.length)
      ⟨r.script.advance (r.script.fetched n), r.events ++ es⟩ hs
    refine ⟨es ++ fs, h.getsOn ?_ ?_ ?_ rfl ?_ hplace (List.append_nil _).symm nofun⟩
    · rw [run, hr]
    · rw [run, hrun]
    · rw [run, hcut]
    · rw [readsBehind_append, hlength]
      exact or_iff_right hstays
  · exact ⟨es, .of_ends (by rw [run, hr]) (by rw [run, hrun]) (by rw [run, hcut]) hstays hplace⟩
  · exact ⟨es, .of_ends (by rw [run, hr]) (by rw [run, hrun]) (by rw [run, hcut]) hstays hplace⟩

/-- A wait that reaches behind the place gives up there. What it would get, and what would be sent
then, comes too late. -/
theorem halts_receive_behind (hs : r.script.pending = none)
    (hbehind : k < (r.script.fetched n).reach)
    (ih : ∀ v (r : Recorder), r.script.pending = none → ∃ events, Halts k (next v) r events) :
    ∃ events, Halts k (.receive n z f next) r events := by
  obtain ⟨o, es, hrun, hr, hlength, hreach⟩ := r.receive_eq n z
  obtain ⟨g, hstop, hg, hcut⟩ := receive_cancelledAt_behind k r.script hbehind z
  have hes : ReadsBehind k es := (hreach k).mpr hbehind
  have hgives {new : List Message}
      (hu : (run 0 (.receive n z f next) r.script).2.sent = r.script.sent ++ new)
      (hlate : ∀ m ∈ new, r.script.consumed + k < m.readBefore) :
      ∃ s', run 0 (.receive n z f next) (r.script.cancelledAt k) = (.stalled, s') ∧
        GivesUp k r.script (run 0 (.receive n z f next) r.script).2 s' := by
    have hnone : new.filter (fun m => m.readBefore ≤ r.script.consumed + k) = [] :=
      List.filter_eq_nil_iff.mpr fun m hm => by simpa using hlate m hm
    refine ⟨(r.script.cancelledAt k).advance g, by rw [run, hcut], ?_⟩
    exact {
      told := by simp [advance, hstop]
      consumed := by rw [consumed_advance, hg]; rfl
      pending := hs
      sent := ⟨new, hu, by rw [hnone, List.append_nil]; rfl⟩ }
  rcases o with v | e | _
  · obtain ⟨fs, h⟩ := ih v ⟨r.script.advance (r.script.fetched n), r.events ++ es⟩ hs
    have hall : ReadsBehind k (es ++ fs) := (readsBehind_append k es fs).mpr (.inl hes)
    refine ⟨es ++ fs, ?_, fun hnot => absurd hall hnot, fun _ => ?_⟩
    · rw [run, hr]
      exact h.record.trans (List.append_assoc _ _ _)
    · obtain ⟨new, hsent, hlate⟩ :=
        sent_of_run (next v) (s := r.script.advance (r.script.fetched n)) hs
      rw [Fetched.reach_of_complete (stop_of_receive hrun)] at hbehind
      refine hgives (by rw [run, hrun]; exact hsent) fun m hm => Nat.lt_of_lt_of_le ?_ (hlate m hm)
      rw [consumed_advance]
      omega
  · refine ⟨es, by rw [run, hr], fun hnot => absurd hes hnot, fun _ => ?_⟩
    exact hgives (by rw [run, hrun, List.append_nil]; rfl) (List.forall_mem_nil _)
  · refine ⟨es, by rw [run, hr], fun hnot => absurd hes hnot, fun _ => ?_⟩
    exact hgives (by rw [run, hrun, List.append_nil]; rfl) (List.forall_mem_nil _)

end

/-- The run of an orderly conversation on a stream that calls to give up behind `k` bytes, beside
the run that is not told to. -/
theorem Orderly.run_cancelledAt {c : Conversation HandshakeError α} (hc : c.Orderly) (k : Nat)
    {r : Recorder} (hs : r.script.pending = none) : ∃ events, Halts k c r events := by
  induction hc generalizing r k with
  | done a =>
    exact ⟨[], .of_ends (by rw [List.append_nil]; rfl) rfl rfl (not_readsBehind_nil k) rfl⟩
  | fail he =>
    exact ⟨[], .of_ends (by rw [List.append_nil]; rfl) rfl rfl (not_readsBehind_nil k) rfl⟩
  | send hm _ ih => exact halts_send hs fun r hr => ih k hr
  | @receive n z next hz _ ih =>
    by_cases hfront : (r.script.fetched n).reach ≤ k
    · exact halts_receive_before hs hfront fun v k r hr => ih v k hr
    · exact halts_receive_behind hs (Nat.not_le.mp hfront) fun v r hr => ih v k hr

end Conversation

/-! ## Connections -/

theorem orderly_handshake (proxy : Proxy) (target : Endpoint) :
    (proxy.handshake target).Orderly := by
  cases proxy with
  | socks4a server credential => exact orderly_handshakeSocks4 target _
  | socks5 server credential =>
    exact (orderly_handshakeSocks5 target credential).bind fun _ => .done ()
  | http server credential userAgent => exact orderly_handshakeHttp target credential userAgent
  | https server credential userAgent verification =>
    exact orderly_handshakeHttp target credential userAgent

section

variable {σ : Type} [SessionCarrier σ] {proxy : Proxy} {target : Endpoint} {t t' : Tunnel σ}

/-- Who is not told to give up, before or on the way, connects as ever. -/
theorem connectCancellable_of_untold (ht : Carrier.isCancelled t.carrier = false)
    (ht' : Carrier.isCancelled (connect proxy target t).2.carrier = false) :
    connectCancellable proxy target t = connect proxy target t := by
  rw [connectCancellable, ht, if_neg Bool.false_ne_true]
  rcases h : connect proxy target t with ⟨_ | _ | _, t'⟩
  · rfl
  · rfl
  · rw [h] at ht'
    dsimp only at ht' ⊢
    rw [ht', if_neg Bool.false_ne_true]

/-- Who waits and is told to give up does so. -/
theorem connectCancellable_of_told (ht : Carrier.isCancelled t.carrier = false)
    (h : connect proxy target t = (.stalled, t')) (ht' : Carrier.isCancelled t'.carrier = true) :
    connectCancellable proxy target t = (.error .cancelled, t') := by
  rw [connectCancellable, ht, if_neg Bool.false_ne_true, h]
  exact if_pos ht'

end

/-- The single reads, writes and flushes by which a proxy is asked for a tunnel. -/
def Proxy.operations (proxy : Proxy) (target : Endpoint) (s : Script) : List Event :=
  ((proxy.handshake target).run 0 (⟨s, []⟩ : Recorder)).2.events

/-- Connections that are given up. Without a call to give up they are ordinary ones, and called off
beforehand they do nothing. If the call comes as soon as more than the next `c` bytes are asked for,
it changes nothing for a handshake that never asks for more; any other fails with it, has read `c`
bytes, and has sent what it sends with no more than these read. -/
theorem connectCancellable_exact {proxy : Proxy} (hproxy : proxy.protocol ≠ .https)
    (target : Endpoint) (s : Script) :
    let ask := fun s => connect proxy target (⟨s, []⟩ : Tunnel Script)
    let askCancellable := fun s => connectCancellable proxy target (⟨s, []⟩ : Tunnel Script)
    (s.isCancelled = true → askCancellable s = (.error .cancelled, ⟨s, []⟩)) ∧
      (s.Uncancelled → askCancellable s = ask s) ∧
      (s.Uncancelled → s.pending = none → ∀ c,
        (¬ReadsBehind c (proxy.operations target s) → askCancellable (s.cancelledAt c) =
          ((ask s).1, ⟨(ask s).2.carrier.cancelledAt (s.consumed + c - (ask s).2.carrier.consumed),
            (ask s).2.layers⟩)) ∧
        (ReadsBehind c (proxy.operations target s) → ∃ t, askCancellable (s.cancelledAt c) =
          (.error .cancelled, t) ∧ Script.GivesUp c s (ask s).2.carrier t.carrier)) := by
  intro ask askCancellable
  have hask (s : Script) : ask s =
      (inContext (proxy, target) ((proxy.handshake target).run 0 s).1,
        ⟨((proxy.handshake target).run 0 s).2, [.plain]⟩) := by
    rw [run_handshake]
    exact connect_plain hproxy target rfl
  have hstays (hs : s.Uncancelled) : (ask s).2.carrier.isCancelled = false := by
    rw [hask]
    exact (uncancelled_respects.run _ s hs).2
  refine ⟨fun hs => if_pos hs, fun hs => connectCancellable_of_untold hs.2 (hstays hs), ?_⟩
  intro hs hpending c
  obtain ⟨events, hhalts⟩ := (orderly_handshake proxy target).run_cancelledAt c
    (r := (⟨s, []⟩ : Recorder)) hpending
  have hevents : proxy.operations target s = events := hhalts.record
  rw [hevents]
  constructor
  · intro hfront
    have hcut : ask (s.cancelledAt c) = ((ask s).1,
        ⟨(ask s).2.carrier.cancelledAt (s.consumed + c - (ask s).2.carrier.consumed),
          (ask s).2.layers⟩) := by
      rw [hask, hask, hhalts.goesOn hfront]
    refine (connectCancellable_of_untold hs.2 ?_).trans hcut
    have huntold : (ask (s.cancelledAt c)).2.carrier.isCancelled = false := by
      rw [hcut]
      exact hstays hs
    exact huntold
  · intro hbehind
    obtain ⟨s', hrun, hgives⟩ := hhalts.givesUp hbehind
    have hcut : ask (s.cancelledAt c) = (.stalled, ⟨s', [.plain]⟩) := by
      rw [hask, hrun]
      rfl
    refine ⟨_, connectCancellable_of_told hs.2 hcut hgives.told, ?_⟩
    rw [hask]
    exact hgives

/-- Called off within the server's first reply, a client has read one byte and sent its offer of
methods; called off behind the last reply, it is connected. -/
theorem connectCancellable_exact_free :
    let proxy : Proxy := .socks5 (.socket (.v4 ⟨10, 0, 0, 1⟩ 1080)) none
    let target : Endpoint := .socket (.v4 ⟨10, 0, 0, 2⟩ 80)
    let free : Script := { items := [.data [5, 0, 5, 0, 0, 1, 0, 0, 0, 0, 0, 0]] }
    let ask := fun s => connectCancellable proxy target (⟨s, []⟩ : Tunnel Script)
    (ask { free with isCancelled := true }).1 = .error .cancelled ∧
      ask free = connect proxy target ⟨free, []⟩ ∧
      (ask (free.cancelledAt 12)).1 = .ok () ∧
      ∃ t, ask (free.cancelledAt 1) = (.error .cancelled, t) ∧ t.carrier.consumed = 1 ∧
        t.carrier.sent = [⟨0, [5, 1, 0]⟩] := by
  intro proxy target free ask
  have hplain : proxy.protocol ≠ .https := by decide
  have hs : free.Uncancelled := ⟨by decide, rfl⟩
  have hexact := connectCancellable_exact hplain target free
  have htold := connectCancellable_exact hplain target { free with isCancelled := true }
  have hbehind := (hexact.2.2 hs rfl 12).1 (by decide +kernel)
  obtain ⟨t, hgiven, hgives⟩ := (hexact.2.2 hs rfl 1).2 (by decide +kernel)
  obtain ⟨new, hu, hsent⟩ := hgives.sent
  have hconnected : (connect proxy target ⟨free, []⟩).1 = .ok () := by decide +kernel
  have hconnect : (connect proxy target ⟨free, []⟩).2.carrier.sent =
      [⟨0, [5, 1, 0]⟩, ⟨2, [5, 1, 0, 1, 10, 0, 0, 2, 0, 80]⟩] := by decide +kernel
  refine ⟨congrArg Prod.fst (htold.1 rfl), hexact.2.1 hs, ?_, t, hgiven, hgives.consumed, ?_⟩
  · exact (congrArg Prod.fst hbehind).trans hconnected
  · rw [hconnect] at hu
    rw [hsent, ← show _ = new from hu]
    rfl

end ProxyTunnel
