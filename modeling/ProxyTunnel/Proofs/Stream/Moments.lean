import ProxyTunnel.Proofs.Handshake.Orderly
import ProxyTunnel.Proofs.Stream.Recorder

/-!
# Every moment of a run

What was heard, said and not yet flushed at a moment of a recorded run (`Moment`), and what may be
done there if it is known which message may be written after what (`Proper`).

* `Guarded`: a conversation writes each message only where it may;
* `Orderly.run_does`: a recorded run of such a conversation does only what is proper, at every
  moment and whatever the stream does, and nothing at all once an operation has failed.
-/

namespace ProxyTunnel

/-- What has happened on a stream up to some moment. -/
structure Moment where
  heard : Bytes := []
  said : Bytes := []
  /-- What was taken and not flushed. -/
  unflushed : Bytes := []
  deriving DecidableEq, Repr

namespace Moment

/-- The moment behind an operation. -/
def step (t : Moment) (e : Event) : Moment where
  heard := t.heard ++ e.got
  said := t.said ++ e.put
  unflushed := if e = .flush (.ok ()) then [] else t.unflushed ++ e.put

theorem step_read (t : Moment) (got : Bytes) :
    t.step (.read (.ok got)) = { t with heard := t.heard ++ got } := by
  simp [step, Event.got, Event.put]

theorem step_read_error (t : Moment) (f : Fault) : t.step (.read (.error f)) = t := by
  simp [step, Event.got, Event.put]

theorem step_write (t : Moment) (offered : Bytes) (n : Nat) :
    t.step (.write offered (.ok n)) = { t with
      said := t.said ++ offered.take n, unflushed := t.unflushed ++ offered.take n } := by
  simp [step, Event.got, Event.put]

theorem step_flush (t : Moment) : t.step (.flush (.ok ())) = { t with unflushed := [] } := by
  simp [step, Event.got, Event.put]

/-- The moment behind some operations. -/
def pass (t : Moment) (events : List Event) : Moment := events.foldl step t

/-- Every operation is done at a moment at which it has `P`. -/
def Each (P : Moment → Event → Prop) : Moment → List Event → Prop
  | _, [] => True
  | t, e :: events => P t e ∧ Each P (t.step e) events

theorem Each.append {P : Moment → Event → Prop} {t : Moment} {es fs : List Event}
    (h : t.Each P es) (h' : (t.pass es).Each P fs) : t.Each P (es ++ fs) := by
  induction es generalizing t with
  | nil => exact h'
  | cons e es ih => exact ⟨h.1, ih h.2 h'⟩

theorem Each.of_append {P : Moment → Event → Prop} {t : Moment} {es fs : List Event}
    (h : t.Each P (es ++ fs)) : t.Each P es := by
  induction es generalizing t with
  | nil => trivial
  | cons e es ih => exact ⟨h.1, ih h.2⟩

theorem Each.at {P : Moment → Event → Prop} {t : Moment} {before after : List Event} {e : Event}
    (h : t.Each P (before ++ e :: after)) : P (t.pass before) e := by
  induction before generalizing t with
  | nil => exact h.1
  | cons x before ih => exact ih h.2

end Moment

/-- Every operation but the last one leaves something to go on with. -/
def Unbroken (events : List Event) : Prop := ∀ e ∈ events.dropLast, e.goesOn = true

/-- Every operation leaves something to go on with. -/
def Flowing (events : List Event) : Prop := ∀ e ∈ events, e.goesOn = true

theorem flowing_nil : Flowing [] := by simp [Flowing]

theorem Flowing.cons {e : Event} {es : List Event} (he : e.goesOn = true) (h : Flowing es) :
    Flowing (e :: es) := List.forall_mem_cons.mpr ⟨he, h⟩

theorem Flowing.append_unbroken {es fs : List Event} (h : Flowing es) (h' : Unbroken fs) :
    Unbroken (es ++ fs) := by
  intro e he
  by_cases hf : fs = []
  · subst hf
    rw [List.append_nil] at he
    exact h e ((List.dropLast_prefix _).subset he)
  · rw [List.dropLast_append_of_ne_nil hf] at he
    rcases List.mem_append.mp he with he | he
    · exact h e he
    · exact h' e he

/-- Nothing is done once an operation has failed. -/
theorem Unbroken.eq_nil {before after : List Event} {e : Event}
    (h : Unbroken (before ++ e :: after)) (he : e.goesOn = false) : after = [] := by
  cases after with
  | nil => rfl
  | cons x after =>
    have hmem : e ∈ (before ++ e :: x :: after).dropLast := by simp
    rw [h e hmem] at he
    cases he

/-- What may be done at a moment, if `due heard said m` tells whether the message `m` may be written
when `heard` was heard and `said` was said before it. -/
def Proper (due : (heard said m : Bytes) → Prop) (t : Moment) : Event → Prop
  | .read _ => t.unflushed = []
  | .write offered _ =>
    ∃ said done, due t.heard said (done ++ offered) ∧ t.said = said ++ done
  | .flush _ => True
  | .shutdown _ => False

/-- From the moment `t` on, a recorder gets from one state to another by proper operations, of which
only the last one may fail. -/
structure Does (due : (heard said m : Bytes) → Prop) (t : Moment) (r r' : Recorder)
    (events : List Event) : Prop where
  record : r'.events = r.events ++ events
  proper : t.Each (Proper due) events
  unbroken : Unbroken events

section

variable {due : (heard said m : Bytes) → Prop} {t : Moment} {r r₁ r₂ : Recorder}

theorem Does.refl (due : (heard said m : Bytes) → Prop) (t : Moment) (r : Recorder) :
    Does due t r r [] :=
  ⟨(List.append_nil _).symm, trivial, by simp [Unbroken]⟩

theorem does_one {s : Script} {e : Event} (he : Proper due t e) :
    Does due t r ⟨s, r.events ++ [e]⟩ [e] :=
  ⟨rfl, ⟨he, trivial⟩, by simp [Unbroken]⟩

theorem Does.trans {es fs : List Event} (h : Does due t r r₁ es) (hflow : Flowing es)
    (h' : Does due (t.pass es) r₁ r₂ fs) : Does due t r r₂ (es ++ fs) :=
  ⟨by rw [h'.record, h.record, List.append_assoc], h.proper.append h'.proper,
    hflow.append_unbroken h'.unbroken⟩

/-- An operation that leaves something to go on with, and what is done behind it. -/
theorem Does.cons {s : Script} {e : Event} {es : List Event} (he : Proper due t e)
    (hgo : e.goesOn = true) (h : Does due (t.step e) ⟨s, r.events ++ [e]⟩ r₂ es) :
    Does due t r r₂ (e :: es) :=
  (does_one he).trans (Flowing.cons hgo flowing_nil) h

/-! ## Single steps -/

/-- The rest of a message that may be written is written. -/
theorem acceptAll_does {said done bs : Bytes} (hsaid : t.said = said ++ done)
    (hdue : due t.heard said (done ++ bs)) {fuel : Nat} (hfuel : bs.length ≤ fuel) (r : Recorder) :
    ∃ events, Does due t r (Carrier.acceptAll 0 fuel bs r).2 events ∧
      ((Carrier.acceptAll 0 fuel bs r).1 = .ok () → Flowing events ∧
        t.pass events = { t with said := t.said ++ bs, unflushed := t.unflushed ++ bs }) := by
  induction fuel generalizing bs done t r with
  | zero =>
    obtain rfl : bs = [] := List.eq_nil_of_length_eq_zero (by omega)
    exact ⟨[], .refl _ _ _, fun _ => ⟨flowing_nil, by simp [Moment.pass]⟩⟩
  | succ fuel ih =>
    by_cases hb : bs = []
    · subst hb
      exact ⟨[], .refl _ _ _, fun _ => ⟨flowing_nil, by simp [Moment.pass]⟩⟩
    rw [Carrier.acceptAll, if_neg hb]
    have haccept : Carrier.accept 0 bs r =
        ((Carrier.accept 0 bs r.script).1, ⟨(Carrier.accept 0 bs r.script).2,
          r.events ++ [.write bs (Carrier.accept 0 bs r.script).1]⟩) := rfl
    rw [haccept]
    have hproper (taken : Outcome Fault Nat) : Proper due t (.write bs taken) :=
      ⟨said, done, hdue, hsaid⟩
    rcases Carrier.accept 0 bs r.script with ⟨(_ | k) | e | _, s⟩
    · exact ⟨_, does_one (hproper _), by simp⟩
    · have hstep := t.step_write bs (k + 1)
      have hsaid' : (t.step (.write bs (.ok (k + 1)))).said =
          said ++ (done ++ bs.take (k + 1)) := by rw [hstep, hsaid, List.append_assoc]
      have hdue' : due (t.step (.write bs (.ok (k + 1)))).heard said
          (done ++ bs.take (k + 1) ++ bs.drop (k + 1)) := by
        rw [hstep, List.append_assoc, List.take_append_drop]
        exact hdue
      have hfuel' : (bs.drop (k + 1)).length ≤ fuel := by
        rw [List.length_drop]
        omega
      have hgo : (Event.write bs (.ok (k + 1))).goesOn = true := by simp [Event.goesOn]
      obtain ⟨events, hdoes, hok⟩ :=
        ih hsaid' hdue' hfuel' ⟨s, r.events ++ [.write bs (.ok (k + 1))]⟩
      refine ⟨_, hdoes.cons (hproper _) hgo, fun ho => ?_⟩
      obtain ⟨hflow, hpass⟩ := hok ho
      refine ⟨hflow.cons hgo, hpass.trans ?_⟩
      simp only [hstep, List.append_assoc, List.take_append_drop]
    · exact ⟨_, does_one (hproper _), by simp⟩
    · exact ⟨_, does_one (hproper _), by simp⟩

variable (due) in
/-- Waiting is proper when everything was flushed. -/
theorem collect_does (ht : t.unflushed = []) (atEnd : Fault) (fuel n : Nat) (r : Recorder) :
    ∃ events, Does due t r (r.collect 0 atEnd fuel n).2 events ∧
      ∀ got, (r.collect 0 atEnd fuel n).1 = .ok got → Flowing events ∧
        t.pass events = { t with heard := t.heard ++ got } := by
  induction fuel generalizing n t r with
  | zero =>
    cases n with
    | zero =>
      refine ⟨[], .refl _ _ _, fun got hgot => ⟨flowing_nil, ?_⟩⟩
      cases hgot
      simp [Moment.pass]
    | succ n => exact ⟨[], .refl _ _ _, by simp [Recorder.collect]⟩
  | succ fuel ih =>
    cases n with
    | zero =>
      refine ⟨[], .refl _ _ _, fun got hgot => ⟨flowing_nil, ?_⟩⟩
      cases hgot
      simp [Moment.pass]
    | succ n =>
    have hread : r.note .read (Carrier.read 0 (n + 1)) =
        ((Carrier.read 0 (n + 1) r.script).1, ⟨(Carrier.read 0 (n + 1) r.script).2,
          r.events ++ [.read (Carrier.read 0 (n + 1) r.script).1]⟩) := rfl
    have hproper (got : Outcome Fault Bytes) : Proper due t (.read got) := ht
    rw [Recorder.collect, hread]
    rcases Carrier.read 0 (n + 1) r.script with ⟨got | f | _, s⟩
    · by_cases hgot : got = []
      · subst hgot
        exact ⟨_, does_one (hproper _), by simp⟩
      · have hstep := t.step_read got
        have hgo : (Event.read (.ok got)).goesOn = true := by simp [Event.goesOn, hgot]
        obtain ⟨events, hdoes, hok⟩ := ih (t := t.step (.read (.ok got))) (by rwa [hstep])
          (n + 1 - got.length) ⟨s, r.events ++ [.read (.ok got)]⟩
        simp only [if_neg hgot]
        refine ⟨_, hdoes.cons (hproper _) hgo, fun all hall => ?_⟩
        obtain ⟨rest, hrest, rfl⟩ := Outcome.map_eq_ok hall
        obtain ⟨hflow, hpass⟩ := hok rest hrest
        refine ⟨hflow.cons hgo, hpass.trans ?_⟩
        simp only [hstep, List.append_assoc]
    · by_cases hf : f = .interrupted
      · subst hf
        have hstep := t.step_read_error .interrupted
        have hgo : (Event.read (.error .interrupted)).goesOn = true := by simp [Event.goesOn]
        obtain ⟨events, hdoes, hok⟩ := ih (t := t.step (.read (.error .interrupted)))
          (by rwa [hstep]) (n + 1) ⟨s, r.events ++ [.read (.error .interrupted)]⟩
        simp only [if_pos]
        refine ⟨_, hdoes.cons (hproper _) hgo, fun got hgot => ?_⟩
        obtain ⟨hflow, hpass⟩ := hok got hgot
        refine ⟨hflow.cons hgo, hpass.trans ?_⟩
        rw [hstep]
      · simp only [if_neg hf]
        exact ⟨_, does_one (hproper _), by simp⟩
    · exact ⟨_, does_one (hproper _), by simp⟩

variable (due) in
theorem receive_does (ht : t.unflushed = []) (n : Nat) (atEnd : Fault) (r : Recorder) :
    ∃ events, Does due t r (Carrier.receive 0 n atEnd r).2 events ∧
      ∀ v : Vector UInt8 n, (Carrier.receive 0 n atEnd r).1 = .ok v → Flowing events ∧
        t.pass events = { t with heard := t.heard ++ v.toList } := by
  obtain ⟨events, hdoes, hok⟩ := collect_does due ht atEnd (r.script.items.length + 1) n r
  show ∃ events, Does due t r (r.receive 0 n atEnd).2 events ∧
    ∀ v, (r.receive 0 n atEnd).1 = .ok v → _
  rw [Recorder.receive]
  rcases hc : r.collect 0 atEnd (r.script.items.length + 1) n with ⟨got | f | _, r'⟩
  · rw [hc] at hdoes hok
    by_cases hlen : got.length = n
    · simp only [dif_pos hlen]
      refine ⟨events, hdoes, fun v hv => ?_⟩
      cases hv
      exact hok got rfl
    · simp only [dif_neg hlen]
      exact ⟨events, hdoes, by simp⟩
  · rw [hc] at hdoes
    exact ⟨events, hdoes, by simp⟩
  · rw [hc] at hdoes
    exact ⟨events, hdoes, by simp⟩

end

/-! ## Whole conversations -/

namespace Conversation

variable {ε α β : Type} {due : (heard said m : Bytes) → Prop}

/-- Each message of the conversation may be written where it is, if `heard` and `said` were heard
and said before. -/
def Guarded (due : (heard said m : Bytes) → Prop) :
    Conversation ε α → (heard said : Bytes) → Prop
  | .done _, _, _ | .fail _, _, _ => True
  | .write m _ next, heard, said => due heard said m ∧ Guarded due next heard (said ++ m)
  | .flush _ next, heard, said => Guarded due next heard said
  | .receive n _ _ next, heard, said =>
    ∀ v : Vector UInt8 n, Guarded due (next v) (heard ++ v.toList) said

/-- Behind what only listens, it is enough to look at what it may have heard. -/
theorem Listens.guarded_bind {f : Fault → SocksError} {p : SocksError → Prop}
    {c : Conversation SocksError α} {k : α → Conversation HandshakeError β} {heard said : Bytes}
    (hc : c.Listens f p)
    (hk : ∀ a first, (∀ l, ∃ l', c.Hears l first (.ok a) l') →
      (k a).Guarded due (heard ++ first) said) :
    (ofSocks c >>= k).Guarded due heard said := by
  show ((c.mapError HandshakeError.ofSocks).bind k).Guarded due heard said
  induction c generalizing heard with
  | done a =>
    have := hk a [] fun l => ⟨l, rfl, rfl, rfl⟩
    rwa [List.append_nil] at this
  | fail e => trivial
  | write m g next ih => exact hc.elim
  | flush g next ih => exact hc.elim
  | receive n z g next ih =>
    intro v
    refine ih v (hc.2.2 v) fun a first h => ?_
    rw [List.append_assoc]
    refine hk a (v.toList ++ first) fun l => ?_
    obtain ⟨l', hl'⟩ := h (l.read n)
    exact ⟨l', v, first, rfl, hl'⟩

/-- Whatever the stream does, a recorded run does only what is proper, and nothing more once an
operation has failed. -/
theorem Orderly.run_does {c : Conversation HandshakeError α} (hc : c.Orderly) {t : Moment}
    (hg : c.Guarded due t.heard t.said) (ht : t.unflushed = []) (r : Recorder) :
    ∃ events, Does due t r (c.run 0 r).2 events := by
  induction hc generalizing t r with
  | done a => exact ⟨[], .refl _ _ _⟩
  | fail he => exact ⟨[], .refl _ _ _⟩
  | @send m next hm h ih =>
    obtain ⟨hdue, hnext⟩ := hg
    have hdue' : due t.heard t.said ([] ++ m) := hdue
    obtain ⟨es, hwrite, hok⟩ :=
      acceptAll_does (List.append_nil t.said).symm hdue' (Nat.le_refl m.length) r
    rw [Conversation.run, Carrier.write]
    rcases hw : Carrier.acceptAll 0 m.length m r with ⟨_ | e | _, r₁⟩
    · rw [hw] at hwrite hok
      obtain ⟨hflow, hpass⟩ := hok rfl
      have hflush : Carrier.flush 0 r₁ = ((Carrier.flush 0 r₁.script).1,
          ⟨(Carrier.flush 0 r₁.script).2,
            r₁.events ++ [.flush (Carrier.flush 0 r₁.script).1]⟩) := rfl
      dsimp only
      rw [Conversation.run, hflush]
      have hproper (o : Outcome Fault Unit) : Proper due (t.pass es) (.flush o) := trivial
      rcases Carrier.flush 0 r₁.script with ⟨_ | f | _, s₂⟩
      · have hstep : (t.pass es).step (.flush (.ok ())) =
            { t with said := t.said ++ m, unflushed := [] } := by rw [hpass, Moment.step_flush]
        obtain ⟨fs, hrest⟩ := ih (t := (t.pass es).step (.flush (.ok ())))
          (by rw [hstep]; exact hnext) (by rw [hstep]) ⟨s₂, r₁.events ++ [.flush (.ok ())]⟩
        exact ⟨_, hwrite.trans hflow (hrest.cons (hproper _) rfl)⟩
      · exact ⟨_, hwrite.trans hflow (does_one (hproper _))⟩
      · exact ⟨_, hwrite.trans hflow (does_one (hproper _))⟩
    · rw [hw] at hwrite
      exact ⟨es, hwrite⟩
    · rw [hw] at hwrite
      exact ⟨es, hwrite⟩
  | @receive n z next hz h ih =>
    obtain ⟨es, hwait, hok⟩ := receive_does due ht n z r
    rw [Conversation.run]
    rcases hw : Carrier.receive 0 n z r with ⟨v | f | _, r₁⟩
    · rw [hw] at hwait hok
      obtain ⟨hflow, hpass⟩ := hok v rfl
      obtain ⟨fs, hrest⟩ := ih v (t := t.pass es) (by rw [hpass]; exact hg v)
        (by rw [hpass]; exact ht) r₁
      exact ⟨_, hwait.trans hflow hrest⟩
    · rw [hw] at hwait
      exact ⟨es, hwait⟩
    · rw [hw] at hwait
      exact ⟨es, hwait⟩

end Conversation

end ProxyTunnel
