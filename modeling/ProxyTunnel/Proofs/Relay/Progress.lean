import Mathlib.Order.OrderIsoNat
import ProxyTunnel.Proofs.Relay.Soundness

/-!
# Relays come to their end

A relay whose streams go on answering comes to its end, in whatever order its ways move: every move
of the way down leaves less to do (`remaining`), or is one that has to wait for a stream (`Quiet`).
From these and from what relays keep to, `play_exact` says all that a relay does.
-/

namespace ProxyTunnel

/-! ## Streams that no longer answer -/

/-- A stream, of which `log` is the record at every moment, is asked again and again, and from some
moment on is never ready. -/
def FallsSilent (log : ℕ → List Event) : Prop :=
  (∀ k, ∃ n, k ≤ (log n).length) ∧
    ∃ n, ∀ m ≥ n, ∀ e ∈ (log m).drop (log n).length, e.waits = true

/-- What is new in a record is that the stream is not ready, once at least if it was `asked`. -/
def OnlyWaits (asked : Prop) (log log' : List Event) : Prop :=
  ∃ es, log' = log ++ es ∧ (∀ e ∈ es, e.waits = true) ∧ (asked → es ≠ [])

theorem OnlyWaits.refl {asked : Prop} (h : ¬asked) (log : List Event) : OnlyWaits asked log log :=
  ⟨[], (List.append_nil _).symm, nofun, fun ha => absurd ha h⟩

theorem OnlyWaits.mono {asked asked' : Prop} (h : asked' → asked) {log log' : List Event}
    (hwaits : OnlyWaits asked log log') : OnlyWaits asked' log log' := by
  obtain ⟨es, hes, hwait, hne⟩ := hwaits
  exact ⟨es, hes, hwait, hne ∘ h⟩

theorem onlyWaits_append (asked : Prop) (log : List Event) {e : Event} (he : e.waits = true) :
    OnlyWaits asked log (log ++ [e]) :=
  ⟨[e], rfl, by simpa using he, fun _ => List.cons_ne_nil _ _⟩

theorem fallsSilent_of_onlyWaits {log : ℕ → List Event} {asked : ℕ → Prop} {n : ℕ}
    (hstep : ∀ m ≥ n, OnlyWaits (asked m) (log m) (log (m + 1)))
    (hasked : ∀ m, ∃ k ≥ m, asked k) : FallsSilent log := by
  have hfrom {k m : ℕ} (hk : n ≤ k) (hm : k ≤ m) :
      ∃ es, log m = log k ++ es ∧ ∀ e ∈ es, e.waits = true := by
    induction m, hm using Nat.le_induction with
    | base => exact ⟨[], (List.append_nil _).symm, nofun⟩
    | succ m hm ih =>
      obtain ⟨es, hes, hwait⟩ := ih
      obtain ⟨fs, hfs, hwait', -⟩ := hstep m (Nat.le_trans hk hm)
      refine ⟨es ++ fs, by rw [hfs, hes, List.append_assoc], ?_⟩
      exact List.forall_mem_append.mpr ⟨hwait, hwait'⟩
  have hlong (k : ℕ) : ∃ m ≥ n, k ≤ (log m).length := by
    induction k with
    | zero => exact ⟨n, Nat.le_refl n, Nat.zero_le _⟩
    | succ k ih =>
      obtain ⟨m, hm, hlength⟩ := ih
      obtain ⟨l, hl, hask⟩ := hasked m
      obtain ⟨es, hes, -⟩ := hfrom hm hl
      obtain ⟨fs, hfs, -, hne⟩ := hstep l (Nat.le_trans hm hl)
      have hpos := List.length_pos_iff.mpr (hne hask)
      refine ⟨l + 1, by omega, ?_⟩
      rw [hfs, hes, List.length_append, List.length_append]
      omega
  refine ⟨fun k => ?_, n, fun m hm => ?_⟩
  · obtain ⟨m, -, hlength⟩ := hlong k
    exact ⟨m, hlength⟩
  · obtain ⟨es, hes, hwait⟩ := hfrom (Nat.le_refl n) hm
    rw [hes, List.drop_left]
    exact hwait

/-! ## What is left to do -/

/-- How far the way down is from its end, apart from the bytes. -/
def Downlink.phase : Downlink → ℕ
  | .writing _ _ false => 6
  | .writing _ _ true => 5
  | .reading true => 4
  | .reading false => 3
  | .ending => 2
  | .finishing => 1

namespace Relay

variable {ρ ι ο : Type}

/-- What is left to do if the tunnel delivers `bound` bytes. A byte that is read outweighs the rest
it adds to, and its going from reading back to writing. -/
def remaining (bound : ℕ) (r : Relay (Logged ρ) (Logged ι) (Logged ο)) : ℕ :=
  8 * (bound - r.tunnel.moment.heard.length) + r.down.rest.length + r.down.phase

/-- A move that leaves the way down as it is. If it is the turn of the way down, the stream that it
needs is asked and not ready. -/
structure Quiet (m : Move) (r r' : Relay (Logged ρ) (Logged ι) (Logged ο)) : Prop where
  down : r'.down = r.down
  heard : r'.tunnel.moment.heard = r.tunnel.moment.heard
  reads : OnlyWaits (m = .step .down ∧ ∃ isDirty, r.down = .reading isDirty)
    (r.tunnel.events.filter Event.isRead) (r'.tunnel.events.filter Event.isRead)
  output : OnlyWaits (m = .step .down ∧ ¬∃ isDirty, r.down = .reading isDirty)
    r.output.events r'.output.events

variable {r r' : Relay (Logged ρ) (Logged ι) (Logged ο)} {p : Progress} {bound : ℕ}

/-- A read that is not ready, behind the other reads. -/
theorem onlyWaits_read (asked : Prop) (s : Logged ρ) (stream : ρ) {e : Entry}
    (hread : e.event.isRead = true) (he : e.event.waits = true) :
    OnlyWaits asked (s.events.filter Event.isRead)
      ((s.push e stream).events.filter Event.isRead) := by
  rw [Logged.events_push, List.filter_append, List.filter_singleton, hread]
  exact onlyWaits_append asked _ he

/-- An operation that is not ready, behind the others. -/
theorem onlyWaits_push {σ : Type} (asked : Prop) (s : Logged σ) (stream : σ) {e : Entry}
    (he : e.event.waits = true) : OnlyWaits asked s.events (s.push e stream).events := by
  rw [Logged.events_push]
  exact onlyWaits_append asked _ he

theorem UpStep.quiet (h : UpStep r p r') : Quiet (.step .up) r r' := by
  have hdown := h.asDown
  have hreads : r'.tunnel.events.filter Event.isRead = r.tunnel.events.filter Event.isRead := by
    cases h with
    | tunnelStuck s hstuck hread => simp [List.filter_append, hread]
    | wrote s hup hpos hle => simp [Event.isRead]
    | flushed s hup => simp [Event.isRead]
    | closed s hup => simp [Event.isRead]
    | _ => rfl
  refine ⟨hdown.down, hdown.heard, ?_, ?_⟩
  · rw [hreads]
    exact .refl (by simp) _
  · rw [hdown.output]
    exact .refl (by simp) _

theorem DownStep.remaining_lt_or (h : DownStep r p r') (hp : p.isOver = false)
    (hbound : r'.tunnel.moment.heard.length ≤ bound) :
    r'.remaining bound < r.remaining bound ∨ Quiet (.step .down) r r' := by
  cases h with
  | @tunnelEnded isDirty s hdown =>
    left
    cases isDirty <;> simp [remaining, hdown, Downlink.phase]
  | @gotPiece isDirty bs s hdown hne =>
    left
    have hpos := List.length_pos_iff.mpr hne
    cases isDirty <;> simp_all [remaining, Downlink.phase] <;> omega
  | @pieceWritten room isLast hdown =>
    left
    cases isLast <;> simp [remaining, hdown, Downlink.phase]
  | @wrote rest room n isLast s hdown hpos hle =>
    left
    cases isLast <;> simp [remaining, hdown, Downlink.phase] <;> omega
  | flushed s s' hdown =>
    left
    simp [remaining, hdown, Downlink.phase]
  | ended s hdown =>
    left
    simp [remaining, hdown, Downlink.phase]
  | finished s hdown => cases hp
  | tunnelStuck s hdown hstuck hread =>
    right
    refine ⟨rfl, by simp [hstuck.step], onlyWaits_read _ _ _ hread (hstuck.waits hp), .refl ?_ _⟩
    simp [hdown]
  | outputStuck s hdown hstuck hread =>
    right
    refine ⟨rfl, rfl, .refl ?_ _, onlyWaits_push _ _ _ (hstuck.waits hp)⟩
    simpa using hdown
  | bothStuck s s' hdown hstuck hread =>
    right
    exact ⟨rfl, by simp, onlyWaits_read _ _ _ rfl rfl, onlyWaits_push _ _ _ (hstuck.waits hp)⟩

theorem AheadStep.remaining_lt_or (h : AheadStep r p r') (hp : p.isOver = false)
    (hbound : r'.tunnel.moment.heard.length ≤ bound) :
    r'.remaining bound < r.remaining bound ∨ Quiet .readAhead r r' := by
  cases h with
  | tunnelEnded s hdown hroom =>
    left
    simp [remaining, hdown, Downlink.phase]
  | @gotPiece rest bs room s hdown hne =>
    left
    have hpos := List.length_pos_iff.mpr hne
    simp_all [remaining, Downlink.phase]
    omega
  | tunnelStuck s hstuck hread =>
    right
    exact ⟨rfl, by simp [hstuck.step], onlyWaits_read _ _ _ hread (hstuck.waits hp),
      .refl (by simp) _⟩
  | idle =>
    right
    exact ⟨rfl, rfl, .refl (by simp) _, .refl (by simp) _⟩

theorem Quiet.remaining_eq {m : Move} (h : Quiet m r r') (bound : ℕ) :
    r'.remaining bound = r.remaining bound := by
  rw [remaining, remaining, h.down, h.heard]

/-! ## Failures -/

/-- All operations on the streams. -/
def events (r : Relay (Logged ρ) (Logged ι) (Logged ο)) : List Event :=
  r.tunnel.events ++ r.input.events ++ r.output.events

theorem UpStep.exists_fails {f : Fault} (h : UpStep r (.failed f) r') :
    ∃ e ∈ r'.events, e.fails = true := by
  cases h with
  | @inputStuck _ e s hstuck => exact ⟨e.event, by simp [events], hstuck.fails⟩
  | @tunnelStuck _ e s hstuck => exact ⟨e.event, by simp [events], hstuck.fails⟩

theorem DownStep.exists_fails {f : Fault} (h : DownStep r (.failed f) r') :
    ∃ e ∈ r'.events, e.fails = true := by
  cases h with
  | @tunnelStuck _ e _ s hdown hstuck => exact ⟨e.event, by simp [events], hstuck.fails⟩
  | @outputStuck _ e s hdown hstuck => exact ⟨e.event, by simp [events], hstuck.fails⟩
  | @bothStuck _ e s s' hdown hstuck => exact ⟨e.event, by simp [events], hstuck.fails⟩

theorem AheadStep.exists_fails {f : Fault} (h : AheadStep r (.failed f) r') :
    ∃ e ∈ r'.events, e.fails = true := by
  cases h with
  | @tunnelStuck _ e s hstuck => exact ⟨e.event, by simp [events], hstuck.fails⟩

/-! ## Runs without an end of their own -/

variable [Carrier ρ] [Carrier ι] [Carrier ο]

/-- What the first `n` moves of an order come to. -/
def after (order : ℕ → Move) (n : ℕ) (r : Relay (Logged ρ) (Logged ι) (Logged ο)) :
    Progress × Relay (Logged ρ) (Logged ι) (Logged ο) := r.play ((List.range n).map order)

/-- As long as a run is not over, it goes on by one move. -/
theorem after_succ {order : ℕ → Move} {n : ℕ} (h : (r.after order n).1.isOver = false) :
    (r.after order (n + 1)).2 = ((r.after order n).2.move (order n)).2 ∧
      (r.after order (n + 1)).1.isOver = ((r.after order n).2.move (order n)).1.isOver := by
  rw [after, List.range_succ, List.map_append, play_append]
  have hover : (r.play ((List.range n).map order)).1.isOver = false := h
  rw [hover, if_neg Bool.false_ne_true, List.map_singleton, play]
  split
  · exact ⟨rfl, rfl⟩
  · rename_i hmove
    exact ⟨rfl, ((Bool.not_eq_true _).mp hmove).symm⟩

section

variable [LawfulCarrier ρ] [LawfulCarrier ι] [LawfulCarrier ο]

/-- Every move leaves less to do, or is quiet. -/
theorem move_remaining_lt_or (m : Move) (hp : (r.move m).1.isOver = false)
    (hbound : (r.move m).2.tunnel.moment.heard.length ≤ bound) :
    (r.move m).2.remaining bound < r.remaining bound ∨ Quiet m r (r.move m).2 :=
  match m with
  | .step .up => .inr (upStep_stepUp r).quiet
  | .step .down => (downStep_stepDown r).remaining_lt_or hp hbound
  | .readAhead => (aheadStep_readAhead r).remaining_lt_or hp hbound

/-- A move that fails does so by an operation that failed. -/
theorem exists_fails_of_move {m : Move} {f : Fault} (h : (r.move m).1 = .failed f) :
    ∃ e ∈ (r.move m).2.events, e.fails = true :=
  match m with
  | .step .up => UpStep.exists_fails (h ▸ upStep_stepUp r)
  | .step .down => DownStep.exists_fails (h ▸ downStep_stepDown r)
  | .readAhead => AheadStep.exists_fails (h ▸ aheadStep_readAhead r)

theorem exists_fails_of_play {moves : List Move} {f : Fault} (h : (r.play moves).1 = .failed f) :
    ∃ e ∈ (r.play moves).2.events, e.fails = true := by
  induction moves generalizing r with
  | nil => cases h
  | cons m moves ih =>
    rw [play] at h ⊢
    split at h
    · rename_i hover
      rw [if_pos hover]
      exact exists_fails_of_move h
    · rename_i hover
      rw [if_neg hover]
      exact ih h

/-- A relay, the moves of which come in `order`, meets with nothing that could keep it from its end:
the way down always gets its turn again, no operation fails, the tunnel delivers so many bytes and
no more, and neither its reads nor the output fall silent. -/
structure GoesWell (order : ℕ → Move) (r : Relay (Logged ρ) (Logged ι) (Logged ο)) : Prop where
  turns : ∀ n, ∃ m ≥ n, order m = .step .down
  succeeds : ∀ n, ∀ e ∈ (r.after order n).2.events, e.fails = false
  bounded : ∃ bound, ∀ n, (r.after order n).2.tunnel.moment.heard.length ≤ bound
  reads : ¬FallsSilent fun n => (r.after order n).2.tunnel.events.filter Event.isRead
  output : ¬FallsSilent fun n => (r.after order n).2.output.events

theorem GoesWell.exists_finished {order : ℕ → Move} (h : GoesWell order r) :
    ∃ n sent received, (r.after order n).1 = .finished sent received := by
  by_contra hnever
  have hgoing (n : ℕ) : (r.after order n).1.isOver = false := by
    cases hp : (r.after order n).1 with
    | finished sent received => exact absurd ⟨n, sent, received, hp⟩ hnever
    | failed f =>
      obtain ⟨e, he, hfails⟩ := exists_fails_of_play hp
      rw [h.succeeds n e he] at hfails
      cases hfails
    | _ => rfl
  obtain ⟨bound, hbound⟩ := h.bounded
  have hstep (n : ℕ) :
      (r.after order (n + 1)).2.remaining bound < (r.after order n).2.remaining bound ∨
        Quiet (order n) (r.after order n).2 (r.after order (n + 1)).2 := by
    obtain ⟨hnext, hover⟩ := after_succ (hgoing n)
    rw [hnext]
    refine move_remaining_lt_or (order n) (hover ▸ hgoing (n + 1)) ?_
    rw [← hnext]
    exact hbound (n + 1)
  have hless : Antitone fun n => (r.after order n).2.remaining bound := by
    refine antitone_nat_of_succ_le fun n => ?_
    rcases hstep n with hlt | hquiet
    · exact Nat.le_of_lt hlt
    · exact Nat.le_of_eq (hquiet.remaining_eq bound)
  -- From some move on there is never less to do, so all moves are quiet.
  obtain ⟨n, hn⟩ := WellFoundedLT.antitone_chain_condition hless
  have hquiet (m : ℕ) (hm : m ≥ n) :
      Quiet (order m) (r.after order m).2 (r.after order (m + 1)).2 := by
    refine (hstep m).resolve_left fun hlt => ?_
    have heq := (hn m hm).symm.trans (hn (m + 1) (Nat.le_succ_of_le hm))
    omega
  have hdown (m : ℕ) (hm : m ≥ n) : (r.after order m).2.down = (r.after order n).2.down := by
    induction m, hm using Nat.le_induction with
    | base => rfl
    | succ m hm ih => exact (hquiet m hm).down.trans ih
  by_cases hreading : ∃ isDirty, (r.after order n).2.down = .reading isDirty
  · refine h.reads (fallsSilent_of_onlyWaits (n := n) (fun m hm => ?_) h.turns)
    refine (hquiet m hm).reads.mono fun hturn => ⟨hturn, ?_⟩
    rw [hdown m hm]
    exact hreading
  · refine h.output (fallsSilent_of_onlyWaits (n := n) (fun m hm => ?_) h.turns)
    refine (hquiet m hm).output.mono fun hturn => ⟨hturn, ?_⟩
    rw [hdown m hm]
    exact hreading

omit [Carrier ο] [LawfulCarrier ο] in
/-- The way up has no part in the end of a relay, and leaves the way down as it is. -/
theorem stepUp_leaves (r : Relay ρ ι ο) :
    (∀ sent received, r.stepUp.1 ≠ .finished sent received) ∧ r.stepUp.2.down = r.down ∧
      r.stepUp.2.output = r.output ∧ r.stepUp.2.received = r.received := by
  have hstep := upStep_stepUp r.record
  have hdown := hstep.asDown
  rw [← forget_record r, stepUp_forget]
  exact ⟨hstep.ne_finished, hdown.down, congrArg Logged.stream hdown.output, hdown.received⟩

/-- Relays copy exactly. Whatever the carriers do and in whatever order the two ways move, the
tunnel takes a beginning of what the input delivers, and the output one of what the tunnel delivers.
The tunnel's writing direction is ended only when all of an ended input is written and flushed, and
this has no part in what the way down does. A relay comes to its end only behind the end of the
tunnel, with all that came from there written and flushed; and it comes there if all goes well. Ways
that take turns move in one of these orders. -/
theorem play_exact (tunnel : ρ) (input : ι) (output : ο) :
    (∀ moves, let run := (start tunnel input output).play moves
      ({ tunnel, input, output } : Relay ρ ι ο).play moves = (run.1, run.2.forget) ∧
        run.2.tunnel.moment.said <+: run.2.input.moment.heard ∧
        run.2.output.moment.said <+: run.2.tunnel.moment.heard ∧
        (run.2.tunnel.IsShut → run.2.input.HasEnded ∧
          run.2.tunnel.moment.said = run.2.input.moment.heard ∧
          run.2.tunnel.moment.unflushed = []) ∧
        ∀ sent received, run.1 = .finished sent received → run.2.Complete sent received) ∧
      (∀ r : Relay ρ ι ο, (∀ sent received, r.stepUp.1 ≠ .finished sent received) ∧
        r.stepUp.2.down = r.down ∧ r.stepUp.2.output = r.output ∧
        r.stepUp.2.received = r.received) ∧
      (∀ order, GoesWell order (start tunnel input output) →
        ∃ n sent received, ((start tunnel input output).after order n).1 =
          .finished sent received) ∧
      ∀ fuel direction isIdle, ∃ moves, let run := (start tunnel input output).play moves
        ({ tunnel, input, output } : Relay ρ ι ο).run fuel direction isIdle =
          (run.1.outcome, run.2.forget) := by
  have hforget (moves : List Move) := play_forget moves (start tunnel input output)
  refine ⟨fun moves => ?_, stepUp_leaves, fun order h => h.exists_finished,
    fun fuel direction isIdle => ?_⟩
  · obtain ⟨hup, hdown, hcomplete⟩ :=
      play_sound moves (soundUp_start tunnel input output) (soundDown_start tunnel input output)
    refine ⟨hforget moves, ⟨_, hup.copied⟩, ⟨_, hdown.copied⟩, fun hshut => ?_, hcomplete⟩
    obtain ⟨hended, hsaid, hflushed, -⟩ := hup.of_isClosing (hup.shut hshut)
    exact ⟨hended, hsaid, hflushed⟩
  · obtain ⟨moves, hrun⟩ :=
      run_eq_play fuel direction isIdle ({ tunnel, input, output } : Relay ρ ι ο)
    have hplay : ({ tunnel, input, output } : Relay ρ ι ο).play moves = _ := hforget moves
    exact ⟨moves, by rw [hrun, hplay]⟩

end

/-- Nothing more comes of a run that is over. -/
theorem after_of_isOver {order : ℕ → Move} {n m : ℕ} (hm : m ≥ n)
    (h : (r.after order n).1.isOver = true) : r.after order m = r.after order n := by
  induction m, hm using Nat.le_induction with
  | base => rfl
  | succ m hm ih =>
    rw [after, List.range_succ, List.map_append, play_append]
    have hover : (r.play ((List.range m).map order)) = r.after order n := ih
    rw [hover, if_pos h]

/-- A server behind a proxy that answers only when the client has ended its direction: three bytes
for four. -/
theorem play_exact_ping :
    let tunnel : Tunnel Script := ⟨{ items := [.waitShutdown, .data [98, 121, 101]] }, [.plain]⟩
    let input : Script := { items := [.data [112, 105, 110, 103]] }
    let order : ℕ → Move := fun n => .step (if n % 2 = 0 then .up else .down)
    let begun := start tunnel input ({} : Script)
    GoesWell order begun ∧ ∃ n, (begun.after order n).1 = .finished 4 3 ∧
      (begun.after order n).2.Complete 4 3 := by
  intro tunnel input order begun
  have hend : (begun.after order 24).1 = .finished 4 3 := by decide +kernel
  have hover : (begun.after order 24).1.isOver = true := by rw [hend]; rfl
  have hfew (n : ℕ) : ∃ k < 25, begun.after order n = begun.after order k := by
    by_cases hn : n < 25
    · exact ⟨n, hn, rfl⟩
    · exact ⟨24, by decide, after_of_isOver (by omega) hover⟩
  have hchecked : ∀ k < 25, (∀ e ∈ (begun.after order k).2.events, e.fails = false) ∧
      (begun.after order k).2.tunnel.moment.heard.length ≤ 3 ∧
      (begun.after order k).2.events.length ≤ 40 := by decide +kernel
  have hcheck (n : ℕ) : (∀ e ∈ (begun.after order n).2.events, e.fails = false) ∧
      (begun.after order n).2.tunnel.moment.heard.length ≤ 3 ∧
      (begun.after order n).2.events.length ≤ 40 := by
    obtain ⟨k, hk, heq⟩ := hfew n
    rw [heq]
    exact hchecked k hk
  have hends (log : ℕ → List Event) (hlog : ∀ n, (log n).Sublist (begun.after order n).2.events) :
      ¬FallsSilent log := by
    rintro ⟨hlong, -⟩
    obtain ⟨n, hn⟩ := hlong 41
    have hfew := Nat.le_trans (hlog n).length_le (hcheck n).2.2
    omega
  have hwell : GoesWell order begun := {
    turns := fun n => ⟨2 * n + 1, by omega, congrArg Move.step (if_neg (by omega))⟩
    succeeds := fun n => (hcheck n).1
    bounded := ⟨3, fun n => (hcheck n).2.1⟩
    reads := hends _ fun n => List.filter_sublist.trans
      ((List.sublist_append_left _ _).trans (List.sublist_append_left _ _))
    output := hends _ fun n => List.sublist_append_right _ _ }
  obtain ⟨hplay, -, hfinish, -⟩ := play_exact tunnel input ({} : Script)
  obtain ⟨n, sent, received, hn⟩ := hfinish order hwell
  -- A run ends once, so it is the end with these counts.
  have hsame : begun.after order n = begun.after order 24 := by
    rcases Nat.le_total n 24 with hle | hle
    · exact (after_of_isOver hle (by rw [hn]; rfl)).symm
    · exact after_of_isOver hle hover
  have hcounts : (begun.after order n).1 = .finished 4 3 := by rw [hsame, hend]
  exact ⟨hwell, n, hcounts, (hplay _).2.2.2.2 4 3 hcounts⟩

end Relay

end ProxyTunnel
