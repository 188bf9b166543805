import ProxyTunnel.Proofs.Relay.Moves

/-!
# What relays keep to

What holds at every moment of every run of a relay, in whatever order its two ways move and whatever
comes of the operations on its streams.
-/

namespace ProxyTunnel

namespace Uplink

/-- What was read and is not yet written. -/
@[simp] def rest : Uplink → Bytes
  | .writing rest _ => rest
  | _ => []

/-- The size of the piece under way. -/
@[simp] def size : Uplink → Nat
  | .writing _ size | .flushing size => size
  | _ => 0

/-- No piece is under way. -/
@[simp] def isSettled : Uplink → Bool
  | .writing _ _ | .flushing _ => false
  | _ => true

/-- The input has ended. -/
@[simp] def isClosing : Uplink → Bool
  | .closing | .done => true
  | _ => false

end Uplink

namespace Downlink

/-- What was read and is not yet written. -/
@[simp] def rest : Downlink → Bytes
  | .writing rest _ _ => rest
  | _ => []

/-- The tunnel has ended. -/
@[simp] def isLast : Downlink → Bool
  | .writing _ _ isLast => isLast
  | .ending | .finishing => true
  | .reading _ => false

end Downlink

namespace Relay

variable {ρ ι ο : Type}

/-- What holds of the way up at every moment. -/
structure SoundUp (r : Relay (Logged ρ) (Logged ι) (Logged ο)) : Prop where
  copied : r.tunnel.moment.said ++ r.up.rest = r.input.moment.heard
  counted : r.sent + r.up.size = r.input.moment.heard.length
  small : r.up.size ≤ relayBufferSize
  rest_le : r.up.rest.length ≤ r.up.size
  flushed : r.up.isSettled = true → r.tunnel.moment.unflushed = []
  ended : r.up.isClosing = true → r.input.HasEnded
  shut : r.tunnel.IsShut → r.up.isClosing = true

/-- What holds of the way down at every moment. -/
structure SoundDown (r : Relay (Logged ρ) (Logged ι) (Logged ο)) : Prop where
  copied : r.output.moment.said ++ r.down.rest = r.tunnel.moment.heard
  counted : r.received = r.output.moment.said.length
  ended : r.down.isLast = true → r.tunnel.HasEnded

variable {r r' : Relay (Logged ρ) (Logged ι) (Logged ο)} {p : Progress}

theorem SoundUp.upStep (h : r.SoundUp) (hstep : UpStep r p r') : r'.SoundUp := by
  obtain ⟨hcopied, hcounted, hsmall, hrest, hflushed, hended, hshut⟩ := h
  cases hstep with
  | inputEnded s hup =>
    simp only [hup, Uplink.rest, Uplink.size, Uplink.isSettled] at hcopied hcounted hflushed
    exact {
      copied := by simpa using hcopied
      counted := by simpa using hcounted
      small := Nat.zero_le _
      rest_le := Nat.le_refl _
      flushed := fun _ => hflushed trivial
      ended := by simp [Entry.findsEnd_read relayBufferSize_pos]
      shut := by simp }
  | gotPiece s hup hne hle =>
    simp only [hup, Uplink.rest, Uplink.size, Uplink.isClosing] at hcopied hcounted hshut
    exact {
      copied := by simpa using hcopied
      counted := by simpa using hcounted
      small := hle
      rest_le := Nat.le_refl _
      flushed := nofun
      ended := nofun
      shut := fun hs => absurd (hshut hs) (by simp) }
  | pieceWritten hup =>
    simp only [hup, Uplink.rest, Uplink.size, Uplink.isClosing] at hcopied hcounted hsmall hshut
    exact {
      copied := hcopied
      counted := hcounted
      small := hsmall
      rest_le := Nat.zero_le _
      flushed := nofun
      ended := nofun
      shut := fun hs => absurd (hshut hs) (by simp) }
  | @wrote rest size n s hup hpos hle =>
    simp only [hup, Uplink.rest, Uplink.size, Uplink.isClosing] at *
    exact {
      copied := by simpa using hcopied
      counted := hcounted
      small := hsmall
      rest_le := by simp; omega
      flushed := nofun
      ended := nofun
      shut := by simpa using hshut }
  | flushed s hup =>
    simp only [hup, Uplink.rest, Uplink.size, Uplink.isClosing] at *
    exact {
      copied := by simpa using hcopied
      counted := hcounted
      small := Nat.zero_le _
      rest_le := Nat.le_refl _
      flushed := by simp
      ended := nofun
      shut := by simpa using hshut }
  | closed s hup =>
    simp only [hup, Uplink.rest, Uplink.size, Uplink.isSettled, Uplink.isClosing] at *
    exact {
      copied := by simpa using hcopied
      counted := hcounted
      small := Nat.zero_le _
      rest_le := Nat.le_refl _
      flushed := by simpa using hflushed
      ended := fun _ => hended trivial
      shut := by simp }
  | inputStuck s hstuck =>
    exact {
      copied := by simpa [hstuck.step] using hcopied
      counted := by simpa [hstuck.step] using hcounted
      small := hsmall
      rest_le := hrest
      flushed := hflushed
      ended := fun hc => by simp [hended hc]
      shut := hshut }
  | tunnelStuck s hstuck hread hclosing =>
    exact {
      copied := by simpa [hstuck.step] using hcopied
      counted := hcounted
      small := hsmall
      rest_le := hrest
      flushed := by simpa [hstuck.step] using hflushed
      ended := hended
      shut := fun hs => by
        rcases Logged.isShut_push _ _ _ |>.mp hs with hs | ⟨o, ho⟩
        · exact hshut hs
        · simp [hclosing o ho] }
  | idle hup => exact ⟨hcopied, hcounted, hsmall, hrest, hflushed, hended, hshut⟩

/-- The way up stands where it stood. -/
structure AsUp (r r' : Relay (Logged ρ) (Logged ι) (Logged ο)) : Prop where
  up : r'.up = r.up
  sent : r'.sent = r.sent
  input : r'.input = r.input
  said : r'.tunnel.moment.said = r.tunnel.moment.said
  unflushed : r'.tunnel.moment.unflushed = r.tunnel.moment.unflushed
  shut : r'.tunnel.IsShut ↔ r.tunnel.IsShut

/-- The way down stands where it stood. -/
structure AsDown (r r' : Relay (Logged ρ) (Logged ι) (Logged ο)) : Prop where
  down : r'.down = r.down
  received : r'.received = r.received
  output : r'.output = r.output
  heard : r'.tunnel.moment.heard = r.tunnel.moment.heard
  ended : r'.tunnel.HasEnded ↔ r.tunnel.HasEnded

theorem SoundUp.of_asUp (h : r.SoundUp) (has : AsUp r r') : r'.SoundUp where
  copied := by rw [has.said, has.up, has.input]; exact h.copied
  counted := by rw [has.sent, has.up, has.input]; exact h.counted
  small := by rw [has.up]; exact h.small
  rest_le := by rw [has.up]; exact h.rest_le
  flushed := by rw [has.up, has.unflushed]; exact h.flushed
  ended := by rw [has.up, has.input]; exact h.ended
  shut := by rw [has.up, has.shut]; exact h.shut

theorem SoundDown.of_asDown (h : r.SoundDown) (has : AsDown r r') : r'.SoundDown where
  copied := by rw [has.output, has.down, has.heard]; exact h.copied
  counted := by rw [has.received, has.output]; exact h.counted
  ended := by rw [has.down, has.ended]; exact h.ended

theorem UpStep.asDown (h : UpStep r p r') : AsDown r r' := by
  cases h with
  | tunnelStuck s hstuck hread hclosing =>
    exact ⟨rfl, rfl, rfl, by simp [hstuck.step], by simp [hstuck.not_findsEnd]⟩
  | wrote s hup hpos hle => exact ⟨rfl, rfl, rfl, by simp, by simp [Entry.FindsEnd]⟩
  | flushed s hup => exact ⟨rfl, rfl, rfl, by simp, by simp [Entry.FindsEnd]⟩
  | closed s hup => exact ⟨rfl, rfl, rfl, by simp, by simp [Entry.FindsEnd]⟩
  | _ => exact ⟨rfl, rfl, rfl, rfl, .rfl⟩

theorem DownStep.asUp (h : DownStep r p r') : AsUp r r' := by
  cases h with
  | tunnelEnded s hdown => exact ⟨rfl, rfl, rfl, by simp, by simp, by simp⟩
  | gotPiece s hdown hne => exact ⟨rfl, rfl, rfl, by simp, by simp, by simp⟩
  | flushed s s' hdown => exact ⟨rfl, rfl, rfl, by simp, by simp, by simp⟩
  | @tunnelStuck p e isDirty s hdown hstuck hread =>
    have hshut : ¬∃ o, e.event = .shutdown o := by
      rintro ⟨o, ho⟩
      rw [ho] at hread
      cases hread
    exact ⟨rfl, rfl, rfl, by simp [hstuck.step], by simp [hstuck.step], by simp [hshut]⟩
  | bothStuck s s' hdown hstuck hread => exact ⟨rfl, rfl, rfl, by simp, by simp, by simp⟩
  | _ => exact ⟨rfl, rfl, rfl, rfl, rfl, .rfl⟩

theorem AheadStep.asUp (h : AheadStep r p r') : AsUp r r' := by
  cases h with
  | tunnelEnded s hdown hroom => exact ⟨rfl, rfl, rfl, by simp, by simp, by simp⟩
  | gotPiece s hdown hne => exact ⟨rfl, rfl, rfl, by simp, by simp, by simp⟩
  | @tunnelStuck p e s hstuck hread =>
    have hshut : ¬∃ o, e.event = .shutdown o := by
      rintro ⟨o, ho⟩
      rw [ho] at hread
      cases hread
    exact ⟨rfl, rfl, rfl, by simp [hstuck.step], by simp [hstuck.step], by simp [hshut]⟩
  | idle => exact ⟨rfl, rfl, rfl, rfl, rfl, .rfl⟩

theorem SoundDown.downStep (h : r.SoundDown) (hstep : DownStep r p r') : r'.SoundDown := by
  obtain ⟨hcopied, hcounted, hended⟩ := h
  cases hstep with
  | tunnelEnded s hdown =>
    simp only [hdown, Downlink.rest] at hcopied
    exact ⟨by simpa using hcopied, hcounted, by simp [Entry.findsEnd_read relayBufferSize_pos]⟩
  | gotPiece s hdown hne =>
    simp only [hdown, Downlink.rest] at hcopied
    exact ⟨by simpa using hcopied, hcounted, nofun⟩
  | @pieceWritten room isLast hdown =>
    simp only [hdown, Downlink.rest, Downlink.isLast] at hcopied hended
    cases isLast with
    | true => exact ⟨hcopied, hcounted, fun _ => hended rfl⟩
    | false => exact ⟨hcopied, hcounted, nofun⟩
  | wrote s hdown hpos hle =>
    simp only [hdown, Downlink.rest, Downlink.isLast] at hcopied hended
    exact ⟨by simpa using hcopied, by simp [hcounted, hle], hended⟩
  | flushed s s' hdown =>
    simp only [hdown, Downlink.rest] at hcopied
    exact ⟨by simpa using hcopied, by simpa using hcounted, nofun⟩
  | ended s hdown =>
    simp only [hdown, Downlink.rest, Downlink.isLast] at hcopied hended
    exact ⟨by simpa using hcopied, by simpa using hcounted, fun _ => hended trivial⟩
  | finished s hdown => exact ⟨by simpa using hcopied, by simpa using hcounted, hended⟩
  | tunnelStuck s hdown hstuck hread =>
    exact ⟨by simpa [hstuck.step] using hcopied, hcounted, fun hl => by simp [hended hl]⟩
  | outputStuck s hdown hstuck hread =>
    exact ⟨by simpa [hstuck.step] using hcopied, by simpa [hstuck.step] using hcounted, hended⟩
  | bothStuck s s' hdown hstuck hread =>
    exact ⟨by simpa [hstuck.step] using hcopied, by simpa [hstuck.step] using hcounted,
      fun hl => by simp [hended hl]⟩

theorem SoundDown.aheadStep (h : r.SoundDown) (hstep : AheadStep r p r') : r'.SoundDown := by
  obtain ⟨hcopied, hcounted, hended⟩ := h
  cases hstep with
  | tunnelEnded s hdown hroom =>
    simp only [hdown, Downlink.rest] at hcopied
    exact ⟨by simpa using hcopied, hcounted, by simp [Entry.findsEnd_read hroom]⟩
  | gotPiece s hdown hne =>
    simp only [hdown, Downlink.rest] at hcopied
    exact ⟨by simp [← hcopied], hcounted, nofun⟩
  | tunnelStuck s hstuck hread =>
    exact ⟨by simpa [hstuck.step] using hcopied, hcounted, fun hl => by simp [hended hl]⟩
  | idle => exact ⟨hcopied, hcounted, hended⟩

/-! ## Runs -/

/-- What is true of a relay that has come to its end. -/
structure Complete (r : Relay (Logged ρ) (Logged ι) (Logged ο)) (sent received : Nat) : Prop where
  ended : r.tunnel.HasEnded
  copied : r.output.moment.said = r.tunnel.moment.heard
  flushed : r.output.moment.unflushed = []
  received : received = r.tunnel.moment.heard.length
  sent_le : sent ≤ r.tunnel.moment.said.length
  le_sent : r.tunnel.moment.said.length ≤ sent + 8192
  sent_of_shut : r.tunnel.IsShut → r.input.HasEnded ∧ sent = r.input.moment.heard.length

theorem SoundUp.bounds (h : r.SoundUp) : r.sent ≤ r.tunnel.moment.said.length ∧
    r.tunnel.moment.said.length ≤ r.sent + relayBufferSize := by
  have hlength := congrArg List.length h.copied
  rw [List.length_append] at hlength
  have hcounted := h.counted
  have hsmall := h.small
  have hrest := h.rest_le
  omega

/-- Behind the end of the input everything is written and flushed. -/
theorem SoundUp.of_isClosing (h : r.SoundUp) (hclosing : r.up.isClosing = true) :
    r.input.HasEnded ∧ r.tunnel.moment.said = r.input.moment.heard ∧
      r.tunnel.moment.unflushed = [] ∧ r.sent = r.input.moment.heard.length := by
  obtain ⟨hcopied, hcounted, -, -, hflushed, hended, -⟩ := h
  have hstate : r.up.rest = [] ∧ r.up.size = 0 ∧ r.up.isSettled = true := by
    cases hup : r.up <;> simp_all
  rw [hstate.1, List.append_nil] at hcopied
  rw [hstate.2.1] at hcounted
  exact ⟨hended hclosing, hcopied, hflushed hstate.2.2, hcounted⟩

theorem UpStep.ne_finished (h : UpStep r p r') (sent received : Nat) :
    p ≠ .finished sent received := by
  rintro rfl
  cases h with
  | inputStuck s hstuck => rcases hstuck with ⟨h, -⟩ | ⟨f, h, -⟩ <;> cases h
  | tunnelStuck s hstuck => rcases hstuck with ⟨h, -⟩ | ⟨f, h, -⟩ <;> cases h

theorem AheadStep.ne_finished (h : AheadStep r p r') (sent received : Nat) :
    p ≠ .finished sent received := by
  rintro rfl
  cases h with
  | tunnelStuck s hstuck => rcases hstuck with ⟨h, -⟩ | ⟨f, h, -⟩ <;> cases h

theorem DownStep.complete {sent received : Nat} (h : DownStep r (.finished sent received) r')
    (hup : r.SoundUp) (hdown : r.SoundDown) : r'.Complete sent received := by
  cases h with
  | finished s hfinishing =>
    obtain ⟨hcopied, hcounted, hended⟩ := hdown
    simp only [hfinishing, Downlink.rest, List.append_nil, Downlink.isLast] at hcopied hended
    exact {
      ended := hended trivial
      copied := by simpa using hcopied
      flushed := by simp
      received := by rw [hcounted, hcopied]
      sent_le := hup.bounds.1
      le_sent := hup.bounds.2
      sent_of_shut := fun hshut => by
        obtain ⟨hend, -, -, hsent⟩ := hup.of_isClosing (hup.shut hshut)
        exact ⟨hend, hsent⟩ }
  | tunnelStuck s hdown hstuck => rcases hstuck with ⟨h, -⟩ | ⟨f, h, -⟩ <;> cases h
  | outputStuck s hdown hstuck => rcases hstuck with ⟨h, -⟩ | ⟨f, h, -⟩ <;> cases h
  | bothStuck s s' hdown hstuck => rcases hstuck with ⟨h, -⟩ | ⟨f, h, -⟩ <;> cases h

section

variable [Carrier ρ] [Carrier ι] [Carrier ο] [LawfulCarrier ρ] [LawfulCarrier ι] [LawfulCarrier ο]

/-- What one move keeps, and what is true if it is the last one. -/
theorem move_sound (m : Move) (hup : r.SoundUp) (hdown : r.SoundDown) :
    (r.move m).2.SoundUp ∧ (r.move m).2.SoundDown ∧
      ∀ sent received, (r.move m).1 = .finished sent received →
        (r.move m).2.Complete sent received := by
  cases m with
  | step direction =>
    cases direction with
    | up =>
      have hstep := upStep_stepUp r
      exact ⟨hup.upStep hstep, hdown.of_asDown hstep.asDown,
        fun sent received h => absurd h (hstep.ne_finished sent received)⟩
    | down =>
      have hstep := downStep_stepDown r
      exact ⟨hup.of_asUp hstep.asUp, hdown.downStep hstep,
        fun sent received h => DownStep.complete (h ▸ hstep) hup hdown⟩
  | readAhead =>
    have hstep := aheadStep_readAhead r
    exact ⟨hup.of_asUp hstep.asUp, hdown.aheadStep hstep,
      fun sent received h => absurd h (hstep.ne_finished sent received)⟩

/-- What a run keeps, and what is true when it has come to its end. -/
theorem play_sound (moves : List Move) (hup : r.SoundUp) (hdown : r.SoundDown) :
    (r.play moves).2.SoundUp ∧ (r.play moves).2.SoundDown ∧
      ∀ sent received, (r.play moves).1 = .finished sent received →
        (r.play moves).2.Complete sent received := by
  induction moves generalizing r with
  | nil => exact ⟨hup, hdown, nofun⟩
  | cons m moves ih =>
    have hmove := move_sound m hup hdown
    rw [play]
    split
    · exact hmove
    · exact ih hmove.1 hmove.2.1

end

/-- A relay about to begin, on carriers that keep a record. -/
def start (tunnel : ρ) (input : ι) (output : ο) : Relay (Logged ρ) (Logged ι) (Logged ο) :=
  ({ tunnel, input, output } : Relay ρ ι ο).record

theorem soundUp_start (tunnel : ρ) (input : ι) (output : ο) :
    (start tunnel input output).SoundUp where
  copied := rfl
  counted := rfl
  small := Nat.zero_le _
  rest_le := Nat.le_refl _
  flushed _ := rfl
  ended := nofun
  shut := nofun

theorem soundDown_start (tunnel : ρ) (input : ι) (output : ο) :
    (start tunnel input output).SoundDown := ⟨rfl, rfl, nofun⟩

end Relay

end ProxyTunnel
