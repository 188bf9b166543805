import ProxyTunnel.Client.Relay
import ProxyTunnel.Proofs.Stream.Logged

/-!
# The moves of a relay

All that a move of a relay can come to, on carriers that keep a record: `UpStep` for the way up,
`DownStep` and `AheadStep` for the way down. Whatever holds of all runs is proved from these.

* `upStep_stepUp`, `downStep_stepDown`, `aheadStep_readAhead`: there is nothing else;
* `play_forget`: to keep a record makes no difference;
* `run_eq_play`: to take turns is to make moves in some order.
-/

namespace ProxyTunnel

theorem relayBufferSize_pos : 0 < relayBufferSize := by decide

/-- How an operation and what comes of it show that there is nothing to go on with. -/
def Progress.Stuck (p : Progress) (e : Event) : Prop :=
  (p = .waiting ∧ e.waits = true) ∨ ∃ f, p = .failed f ∧ e.fails = true

theorem Progress.stuck_waiting {e : Event} (h : e.waits = true) : Progress.waiting.Stuck e :=
  .inl ⟨rfl, h⟩

theorem Progress.stuck_failed {e : Event} (f : Fault) (h : e.fails = true) :
    (Progress.failed f).Stuck e := .inr ⟨f, rfl, h⟩

/-- An operation after which there is nothing to go on with changes nothing. -/
theorem Progress.Stuck.step {p : Progress} {e : Event} (h : p.Stuck e) (t : Moment) :
    t.step e = t := by
  rcases h with ⟨-, h⟩ | ⟨f, -, h⟩
  · rcases e with (_ | _ | _) | ⟨_, _ | _ | _⟩ | (_ | _ | _) | (_ | _ | _) <;> cases h <;>
      simp [Moment.step, Event.got, Event.put]
  · rcases e with (_ | _ | _) | ⟨_, (_ | _) | _ | _⟩ | (_ | _ | _) | (_ | _ | _) <;> cases h <;>
      simp [Moment.step, Event.got, Event.put]

theorem Progress.Stuck.waits {p : Progress} {e : Event} (h : p.Stuck e) (hp : p.isOver = false) :
    e.waits = true := by
  rcases h with ⟨-, h⟩ | ⟨f, rfl, -⟩
  · exact h
  · cases hp

theorem Progress.Stuck.fails {e : Event} {f : Fault} (h : (Progress.failed f).Stuck e) :
    e.fails = true := by
  rcases h with ⟨h, -⟩ | ⟨-, -, h⟩
  · cases h
  · exact h

theorem Progress.Stuck.not_findsEnd {p : Progress} {e : Entry} (h : p.Stuck e.event) :
    ¬e.FindsEnd := by
  rintro ⟨hevent, -⟩
  rw [hevent] at h
  rcases h with ⟨-, h⟩ | ⟨f, -, h⟩ <;> cases h

/-- What a relay returns that has got so far. -/
def Progress.outcome : Progress → Outcome Fault (Nat × Nat)
  | .moved | .waiting => .stalled
  | .finished sent received => .ok (sent, received)
  | .failed f => .error f

namespace Relay

variable {ρ ι ο : Type}

/-! ## All that a move can come to -/

/-- A step of the way up, on carriers with records. -/
inductive UpStep (r : Relay (Logged ρ) (Logged ι) (Logged ο)) :
    Progress → Relay (Logged ρ) (Logged ι) (Logged ο) → Prop where
  | inputEnded (s : ι) (hup : r.up = .reading) :
    UpStep r .moved { r with
      input := r.input.push ⟨.read (.ok []), some relayBufferSize⟩ s
      up := .closing }
  | gotPiece {bs : Bytes} (s : ι) (hup : r.up = .reading) (hne : bs ≠ [])
    (hle : bs.length ≤ relayBufferSize) :
    UpStep r .moved { r with
      input := r.input.push ⟨.read (.ok bs), some relayBufferSize⟩ s
      up := .writing bs bs.length }
  | pieceWritten {size : Nat} (hup : r.up = .writing [] size) :
    UpStep r .moved { r with up := .flushing size }
  | wrote {rest : Bytes} {size n : Nat} (s : ρ) (hup : r.up = .writing rest size) (hpos : 0 < n)
    (hle : n ≤ rest.length) :
    UpStep r .moved { r with
      tunnel := r.tunnel.push ⟨.write rest (.ok n), none⟩ s
      up := .writing (rest.drop n) size }
  | flushed {size : Nat} (s : ρ) (hup : r.up = .flushing size) :
    UpStep r .moved { r with
      tunnel := r.tunnel.push ⟨.flush (.ok ()), none⟩ s
      up := .reading
      sent := r.sent + size }
  | closed (s : ρ) (hup : r.up = .closing) :
    UpStep r .moved { r with tunnel := r.tunnel.push ⟨.shutdown (.ok ()), none⟩ s, up := .done }
  | inputStuck {p : Progress} {e : Entry} (s : ι) (hstuck : p.Stuck e.event) :
    UpStep r p { r with input := r.input.push e s }
  | tunnelStuck {p : Progress} {e : Entry} (s : ρ) (hstuck : p.Stuck e.event)
    (hread : e.event.isRead = false) (hshut : ∀ o, e.event = .shutdown o → r.up = .closing) :
    UpStep r p { r with tunnel := r.tunnel.push e s }
  | idle (hup : r.up = .done) : UpStep r .waiting r

/-- A step of the way down. -/
inductive DownStep (r : Relay (Logged ρ) (Logged ι) (Logged ο)) :
    Progress → Relay (Logged ρ) (Logged ι) (Logged ο) → Prop where
  | tunnelEnded {isDirty : Bool} (s : ρ) (hdown : r.down = .reading isDirty) :
    DownStep r .moved { r with
      tunnel := r.tunnel.push ⟨.read (.ok []), some relayBufferSize⟩ s
      down := .ending }
  | gotPiece {isDirty : Bool} {bs : Bytes} (s : ρ) (hdown : r.down = .reading isDirty)
    (hne : bs ≠ []) :
    DownStep r .moved { r with
      tunnel := r.tunnel.push ⟨.read (.ok bs), some relayBufferSize⟩ s
      down := .writing bs (relayBufferSize - bs.length) false }
  | pieceWritten {room : Nat} {isLast : Bool} (hdown : r.down = .writing [] room isLast) :
    DownStep r .moved { r with down := if isLast then .ending else .reading true }
  | wrote {rest : Bytes} {room n : Nat} {isLast : Bool} (s : ο)
    (hdown : r.down = .writing rest room isLast) (hpos : 0 < n) (hle : n ≤ rest.length) :
    DownStep r .moved { r with
      output := r.output.push ⟨.write rest (.ok n), none⟩ s
      down := .writing (rest.drop n) room isLast
      received := r.received + n }
  | flushed (s : ρ) (s' : ο) (hdown : r.down = .reading true) :
    DownStep r .moved { r with
      tunnel := r.tunnel.push ⟨.read .stalled, some relayBufferSize⟩ s
      output := r.output.push ⟨.flush (.ok ()), none⟩ s'
      down := .reading false }
  | ended (s : ο) (hdown : r.down = .ending) :
    DownStep r .moved
      { r with output := r.output.push ⟨.flush (.ok ()), none⟩ s, down := .finishing }
  | finished (s : ο) (hdown : r.down = .finishing) :
    DownStep r (.finished r.sent r.received)
      { r with output := r.output.push ⟨.flush (.ok ()), none⟩ s }
  | tunnelStuck {p : Progress} {e : Entry} {isDirty : Bool} (s : ρ)
    (hdown : r.down = .reading isDirty) (hstuck : p.Stuck e.event)
    (hread : e.event.isRead = true) :
    DownStep r p { r with tunnel := r.tunnel.push e s }
  | outputStuck {p : Progress} {e : Entry} (s : ο) (hdown : ∀ isDirty, r.down ≠ .reading isDirty)
    (hstuck : p.Stuck e.event) (hread : e.event.isRead = false) :
    DownStep r p { r with output := r.output.push e s }
  | bothStuck {p : Progress} {e : Entry} (s : ρ) (s' : ο) (hdown : r.down = .reading true)
    (hstuck : p.Stuck e.event) (hread : e.event.isRead = false) :
    DownStep r p { r with
      tunnel := r.tunnel.push ⟨.read .stalled, some relayBufferSize⟩ s
      output := r.output.push e s' }

/-- A read ahead of what is still to be written. -/
inductive AheadStep (r : Relay (Logged ρ) (Logged ι) (Logged ο)) :
    Progress → Relay (Logged ρ) (Logged ι) (Logged ο) → Prop where
  | tunnelEnded {rest : Bytes} {room : Nat} (s : ρ) (hdown : r.down = .writing rest room false)
    (hroom : 0 < room) :
    AheadStep r .moved { r with
      tunnel := r.tunnel.push ⟨.read (.ok []), some room⟩ s
      down := .writing rest room true }
  | gotPiece {rest bs : Bytes} {room : Nat} (s : ρ) (hdown : r.down = .writing rest room false)
    (hne : bs ≠ []) :
    AheadStep r .moved { r with
      tunnel := r.tunnel.push ⟨.read (.ok bs), some room⟩ s
      down := .writing (rest ++ bs) (room - bs.length) false }
  | tunnelStuck {p : Progress} {e : Entry} (s : ρ) (hstuck : p.Stuck e.event)
    (hread : e.event.isRead = true) :
    AheadStep r p { r with tunnel := r.tunnel.push e s }
  | idle : AheadStep r .waiting r

section

variable [Carrier ρ] (r : Relay (Logged ρ) (Logged ι) (Logged ο))

theorem upStep_stepUp [Carrier ι] [LawfulCarrier ρ] [LawfulCarrier ι] :
    UpStep r r.stepUp.1 r.stepUp.2 := by
  obtain ⟨tunnel, input, output, up, down, sent, received⟩ := r
  cases up with
  | reading =>
    rw [stepUp, Logged.read_eq]
    rcases ho : (Carrier.read 0 relayBufferSize input.stream).1 with (_ | ⟨b, bs⟩) | e | _
    · exact .inputEnded _ rfl
    · exact .gotPiece _ rfl (List.cons_ne_nil b bs) (LawfulCarrier.length_read ho)
    · exact .inputStuck (e := ⟨.read (.error e), _⟩) _ (Progress.stuck_failed e rfl)
    · exact .inputStuck (e := ⟨.read .stalled, _⟩) _ (Progress.stuck_waiting rfl)
  | writing rest size =>
    rw [stepUp]
    dsimp only
    split
    · rename_i hrest
      exact .pieceWritten (by rw [hrest])
    · rw [Logged.accept_eq]
      rcases ho : (Carrier.accept 0 rest tunnel.stream).1 with (_ | n) | e | _
      · exact .tunnelStuck (e := ⟨.write rest (.ok 0), _⟩) _ (Progress.stuck_failed _ rfl) rfl nofun
      · exact .wrote _ rfl n.succ_pos (LawfulCarrier.accept_le ho)
      · exact .tunnelStuck (e := ⟨.write rest (.error e), _⟩) _
          (Progress.stuck_failed e rfl) rfl nofun
      · exact .tunnelStuck (e := ⟨.write rest .stalled, _⟩) _ (Progress.stuck_waiting rfl) rfl nofun
  | flushing size =>
    rw [stepUp, Logged.flush_eq]
    rcases (Carrier.flush 0 tunnel.stream).1 with _ | e | _
    · exact .flushed _ rfl
    · exact .tunnelStuck (e := ⟨.flush (.error e), _⟩) _ (Progress.stuck_failed e rfl) rfl nofun
    · exact .tunnelStuck (e := ⟨.flush .stalled, _⟩) _ (Progress.stuck_waiting rfl) rfl nofun
  | closing =>
    rw [stepUp, Logged.shutdown_eq]
    rcases (Carrier.shutdown 0 tunnel.stream).1 with _ | e | _
    · exact .closed _ rfl
    · exact .tunnelStuck (e := ⟨.shutdown (.error e), _⟩) _
        (Progress.stuck_failed e rfl) rfl fun _ _ => rfl
    · exact .tunnelStuck (e := ⟨.shutdown .stalled, _⟩) _
        (Progress.stuck_waiting rfl) rfl fun _ _ => rfl
  | done => exact .idle rfl

theorem downStep_stepDown [Carrier ο] [LawfulCarrier ο] : DownStep r r.stepDown.1 r.stepDown.2 := by
  obtain ⟨tunnel, input, output, up, down, sent, received⟩ := r
  cases down with
  | reading isDirty =>
    rw [stepDown, Logged.read_eq]
    rcases ho : (Carrier.read 0 relayBufferSize tunnel.stream).1 with (_ | ⟨b, bs⟩) | e | _
    · exact .tunnelEnded _ rfl
    · exact .gotPiece _ rfl (List.cons_ne_nil b bs)
    · exact .tunnelStuck (e := ⟨.read (.error e), _⟩) _ rfl (Progress.stuck_failed e rfl) rfl
    · cases isDirty with
      | false => exact .tunnelStuck (e := ⟨.read .stalled, _⟩) _ rfl (Progress.stuck_waiting rfl) rfl
      | true =>
        dsimp only
        rw [if_pos rfl, flushOutput, Logged.flush_eq]
        rcases (Carrier.flush 0 output.stream).1 with _ | e | _
        · exact .flushed _ _ rfl
        · exact .bothStuck (e := ⟨.flush (.error e), _⟩) _ _ rfl (Progress.stuck_failed e rfl) rfl
        · exact .bothStuck (e := ⟨.flush .stalled, _⟩) _ _ rfl (Progress.stuck_waiting rfl) rfl
  | writing rest room isLast =>
    rw [stepDown]
    dsimp only
    split
    · rename_i hrest
      exact .pieceWritten (by rw [hrest])
    · rw [Logged.accept_eq]
      rcases ho : (Carrier.accept 0 rest output.stream).1 with (_ | n) | e | _
      · exact .outputStuck (e := ⟨.write rest (.ok 0), _⟩) _ nofun (Progress.stuck_failed _ rfl) rfl
      · exact .wrote _ rfl n.succ_pos (LawfulCarrier.accept_le ho)
      · exact .outputStuck (e := ⟨.write rest (.error e), _⟩) _ nofun
          (Progress.stuck_failed e rfl) rfl
      · exact .outputStuck (e := ⟨.write rest .stalled, _⟩) _ nofun
          (Progress.stuck_waiting rfl) rfl
  | ending =>
    rw [stepDown, flushOutput, Logged.flush_eq]
    rcases (Carrier.flush 0 output.stream).1 with _ | e | _
    · exact .ended _ rfl
    · exact .outputStuck (e := ⟨.flush (.error e), _⟩) _ nofun (Progress.stuck_failed e rfl) rfl
    · exact .outputStuck (e := ⟨.flush .stalled, _⟩) _ nofun (Progress.stuck_waiting rfl) rfl
  | finishing =>
    rw [stepDown, Logged.flush_eq]
    rcases (Carrier.flush 0 output.stream).1 with _ | e | _
    · exact .finished _ rfl
    · exact .outputStuck (e := ⟨.flush (.error e), _⟩) _ nofun (Progress.stuck_failed e rfl) rfl
    · exact .outputStuck (e := ⟨.flush .stalled, _⟩) _ nofun (Progress.stuck_waiting rfl) rfl

theorem aheadStep_readAhead : AheadStep r r.readAhead.1 r.readAhead.2 := by
  unfold readAhead
  split
  · rename_i rest room hdown
    rw [Logged.read_eq]
    rcases (Carrier.read 0 (room + 1) r.tunnel.stream).1 with (_ | ⟨b, bs⟩) | e | _
    · exact .tunnelEnded _ hdown room.succ_pos
    · exact .gotPiece _ hdown (List.cons_ne_nil b bs)
    · exact .tunnelStuck (e := ⟨.read (.error e), _⟩) _ (Progress.stuck_failed e rfl) rfl
    · exact .tunnelStuck (e := ⟨.read .stalled, _⟩) _ (Progress.stuck_waiting rfl) rfl
  · exact .idle

end

/-! ## Records make no difference -/

/-- The relay on the carriers themselves. -/
def forget (r : Relay (Logged ρ) (Logged ι) (Logged ο)) : Relay ρ ι ο :=
  { r with tunnel := r.tunnel.stream, input := r.input.stream, output := r.output.stream }

/-- The relay on carriers that begin to keep a record. -/
def record (r : Relay ρ ι ο) : Relay (Logged ρ) (Logged ι) (Logged ο) :=
  { r with tunnel := ⟨r.tunnel, []⟩, input := ⟨r.input, []⟩, output := ⟨r.output, []⟩ }

theorem forget_record (r : Relay ρ ι ο) : r.record.forget = r := rfl

theorem stepUp_forget [Carrier ρ] [Carrier ι]
    (r : Relay (Logged ρ) (Logged ι) (Logged ο)) :
    r.forget.stepUp = (r.stepUp.1, r.stepUp.2.forget) := by
  obtain ⟨tunnel, input, output, up, down, sent, received⟩ := r
  cases up with
  | reading =>
    rw [stepUp, stepUp, Logged.read_eq, forget]
    dsimp only
    rcases Carrier.read 0 relayBufferSize input.stream with ⟨(_ | _) | _ | _, s⟩ <;> rfl
  | writing rest size =>
    by_cases hrest : rest = []
    · subst hrest
      rfl
    · rw [stepUp, stepUp, forget]
      dsimp only
      rw [if_neg hrest, if_neg hrest, Logged.accept_eq]
      dsimp only
      rcases Carrier.accept 0 rest tunnel.stream with ⟨(_ | _) | _ | _, s⟩ <;> rfl
  | flushing size =>
    rw [stepUp, stepUp, Logged.flush_eq, forget]
    dsimp only
    rcases Carrier.flush 0 tunnel.stream with ⟨_ | _ | _, s⟩ <;> rfl
  | closing =>
    rw [stepUp, stepUp, Logged.shutdown_eq, forget]
    dsimp only
    rcases Carrier.shutdown 0 tunnel.stream with ⟨_ | _ | _, s⟩ <;> rfl
  | done => rfl

theorem flushOutput_forget [Carrier ο] (next : Downlink)
    (r : Relay (Logged ρ) (Logged ι) (Logged ο)) :
    r.forget.flushOutput next = ((r.flushOutput next).1, (r.flushOutput next).2.forget) := by
  rw [flushOutput, flushOutput, Logged.flush_eq, forget]
  dsimp only
  rcases Carrier.flush 0 r.output.stream with ⟨_ | _ | _, s⟩ <;> rfl

theorem stepDown_forget [Carrier ρ] [Carrier ο]
    (r : Relay (Logged ρ) (Logged ι) (Logged ο)) :
    r.forget.stepDown = (r.stepDown.1, r.stepDown.2.forget) := by
  obtain ⟨tunnel, input, output, up, down, sent, received⟩ := r
  cases down with
  | reading isDirty =>
    rw [stepDown, stepDown, Logged.read_eq, forget]
    dsimp only
    rcases Carrier.read 0 relayBufferSize tunnel.stream with ⟨(_ | _) | _ | _, s⟩
    · rfl
    · rfl
    · rfl
    · cases isDirty with
      | false => rfl
      | true =>
        exact flushOutput_forget (.reading false)
          (⟨tunnel.push ⟨.read .stalled, some relayBufferSize⟩ s, input, output, up, .reading true,
            sent, received⟩ : Relay (Logged ρ) (Logged ι) (Logged ο))
  | writing rest room isLast =>
    by_cases hrest : rest = []
    · subst hrest
      rfl
    · rw [stepDown, stepDown, forget]
      dsimp only
      rw [if_neg hrest, if_neg hrest, Logged.accept_eq]
      dsimp only
      rcases Carrier.accept 0 rest output.stream with ⟨(_ | _) | _ | _, s⟩ <;> rfl
  | ending => exact flushOutput_forget .finishing _
  | finishing =>
    rw [stepDown, stepDown, Logged.flush_eq, forget]
    dsimp only
    rcases Carrier.flush 0 output.stream with ⟨_ | _ | _, s⟩ <;> rfl

theorem readAhead_forget [Carrier ρ] (r : Relay (Logged ρ) (Logged ι) (Logged ο)) :
    r.forget.readAhead = (r.readAhead.1, r.readAhead.2.forget) := by
  obtain ⟨tunnel, input, output, up, down, sent, received⟩ := r
  rw [readAhead, readAhead, forget]
  dsimp only
  split
  · rw [Logged.read_eq]
    rename_i rest room
    dsimp only
    rcases Carrier.read 0 (room + 1) tunnel.stream with ⟨(_ | _) | _ | _, s⟩ <;> rfl
  · rfl

variable [Carrier ρ] [Carrier ι] [Carrier ο]

theorem move_forget (m : Move) (r : Relay (Logged ρ) (Logged ι) (Logged ο)) :
    r.forget.move m = ((r.move m).1, (r.move m).2.forget) :=
  match m with
  | .step .up => stepUp_forget r
  | .step .down => stepDown_forget r
  | .readAhead => readAhead_forget r

/-- To keep records makes no difference to a run. -/
theorem play_forget (moves : List Move) (r : Relay (Logged ρ) (Logged ι) (Logged ο)) :
    r.forget.play moves = ((r.play moves).1, (r.play moves).2.forget) := by
  induction moves generalizing r with
  | nil => rfl
  | cons m moves ih =>
    rw [play, play, move_forget]
    split
    · rfl
    · exact ih _

/-! ## Taking turns -/

theorem play_append (moves moves' : List Move) (r : Relay ρ ι ο) :
    r.play (moves ++ moves') =
      if (r.play moves).1.isOver then r.play moves else (r.play moves).2.play moves' := by
  induction moves generalizing r with
  | nil => rfl
  | cons m moves ih =>
    rw [List.cons_append, play, play]
    split
    · rfl
    · exact ih _

/-- Directions that take turns make moves in some order. -/
theorem run_eq_play (fuel : Nat) (direction : Direction) (isIdle : Bool) (r : Relay ρ ι ο) :
    ∃ moves, run fuel direction isIdle r = ((r.play moves).1.outcome, (r.play moves).2) := by
  induction fuel generalizing direction isIdle r with
  | zero => exact ⟨[], rfl⟩
  | succ fuel ih =>
    rw [run]
    rcases hstep : r.step direction with ⟨_ | _ | _ | _, r'⟩
    · obtain ⟨moves, h⟩ := ih direction false r'
      refine ⟨.step direction :: moves, ?_⟩
      rw [play, move, hstep]
      exact h
    · cases isIdle with
      | true =>
        refine ⟨[.step direction], ?_⟩
        rw [play, move, hstep]
        rfl
      | false =>
        obtain ⟨moves, h⟩ := ih direction.other true r'
        refine ⟨.step direction :: moves, ?_⟩
        rw [play, move, hstep]
        exact h
    · refine ⟨[.step direction], ?_⟩
      rw [play, move, hstep]
      rfl
    · refine ⟨[.step direction], ?_⟩
      rw [play, move, hstep]
      rfl

end Relay

end ProxyTunnel
