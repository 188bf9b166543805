import ProxyTunnel.Client.Connector
import ProxyTunnel.Proofs.Stream.Hearing
import ProxyTunnel.Proofs.Stream.Mirrors

/-!
# Carriers with a record of levels and sessions

A `Trail` is a carrier on which sessions can be opened, with a list of all that was done on it:
which operation on which level, which session under which name. It tells what passed outside a
session and what passed inside.

* `mirrors_stream`: to record makes no difference;
* `Mirrors.abreast`: on carriers in step the trails go on alike, each on its own level;
* `hears_of_run`: a run that has a result heard the bytes that it got and said those that it put.
-/

namespace ProxyTunnel

/-- What can be done on a carrier of sessions, with what came of it. -/
inductive Act where
  | on (level : Nat) (event : Event)
  | opening (level : Nat) (name : Tls.ServerName) (verification : Verification)
      (done : Outcome Fault Unit)
  deriving DecidableEq, Repr

/-- A carrier and all that was done on it, in order. -/
structure Trail (σ : Type) where
  stream : σ
  acts : List Act := []

namespace Trail

variable {σ τ : Type}

/-- Does one operation on a level and records it. -/
def note {α : Type} (level : Nat) (event : Outcome Fault α → Event)
    (f : σ → Outcome Fault α × σ) (r : Trail σ) : Outcome Fault α × Trail σ :=
  ((f r.stream).1, ⟨(f r.stream).2, r.acts ++ [.on level (event (f r.stream).1)]⟩)

theorem acts_of_note {α : Type} {level : Nat} {event : Outcome Fault α → Event}
    {f : σ → Outcome Fault α × σ} {r r' : Trail σ} {o : Outcome Fault α}
    (h : r.note level event f = (o, r')) : r'.acts = r.acts ++ [.on level (event o)] := by
  cases h
  rfl

instance [Carrier σ] : Carrier (Trail σ) where
  read level max := note level .read (Carrier.read level max)
  receive level n z := note level (fun o => .read (o.map Vector.toList)) (Carrier.receive level n z)
  drain level := note level .read (Carrier.drain level)
  accept level bs := note level (.write bs) (Carrier.accept level bs)
  flush level := note level .flush (Carrier.flush level)
  shutdown level := note level .shutdown (Carrier.shutdown level)
  isCancelled r := Carrier.isCancelled r.stream

instance [SessionCarrier σ] : SessionCarrier (Trail σ) where
  openSession level name verification r :=
    let opened := SessionCarrier.openSession level name verification r.stream
    (opened.1, ⟨opened.2, r.acts ++ [.opening level name verification opened.1]⟩)

variable [Carrier σ] [Carrier τ] {level level' : Nat}

/-- To record makes no difference. -/
theorem mirrors_stream (level : Nat) :
    Carrier.Mirrors level level fun (r : Trail σ) s => r.stream = s where
  read h max := by subst h; exact ⟨rfl, rfl⟩
  receive h n z := by subst h; exact ⟨rfl, rfl⟩
  accept h bs := by subst h; exact ⟨rfl, rfl⟩
  flush h := by subst h; exact ⟨rfl, rfl⟩

/-- Operations leave one act each. -/
theorem acts_runAll (uses : List Use) (r : Trail σ) :
    (Use.runAll level uses r).2.acts = r.acts ++ (Use.runAll level uses r).1.map (.on level) := by
  induction uses generalizing r with
  | nil => exact (List.append_nil _).symm
  | cons use uses ih =>
    have hone : (use.run level r).2.acts = r.acts ++ [.on level (use.run level r).1] := by
      cases use <;> rfl
    have hrest := ih (use.run level r).2
    rw [hone, List.append_assoc] at hrest
    exact hrest

/-! ## Two trails -/

/-- Behind `acts` and `acts'` the same was done on both, here on `level` and there on `level'`, and
`R` holds. -/
def Abreast (level level' : Nat) (R : σ → τ → Prop) (acts acts' : List Act) (r : Trail σ)
    (r' : Trail τ) : Prop :=
  R r.stream r'.stream ∧
    ∃ events : List Event, r.acts = acts ++ events.map (.on level) ∧
      r'.acts = acts' ++ events.map (.on level')

variable {R : σ → τ → Prop} {acts acts' : List Act} {r : Trail σ} {r' : Trail τ}

omit [Carrier σ] [Carrier τ] in
theorem Abreast.note {α : Type} (h : Abreast level level' R acts acts' r r')
    (event : Outcome Fault α → Event) {f : σ → Outcome Fault α × σ} {g : τ → Outcome Fault α × τ}
    (hfg : InStep R (f r.stream) (g r'.stream)) :
    InStep (Abreast level level' R acts acts') (r.note level event f)
      (r'.note level' event g) := by
  obtain ⟨-, events, hacts, hacts'⟩ := h
  refine ⟨hfg.outcome, hfg.behind, events ++ [event (f r.stream).1], ?_, ?_⟩
  · show r.acts ++ _ = _
    rw [hacts, List.map_append, List.append_assoc]
    rfl
  · show r'.acts ++ _ = _
    rw [hacts', ← hfg.outcome, List.map_append, List.append_assoc]
    rfl

end Trail

namespace Carrier

variable {σ τ : Type} [Carrier σ] [Carrier τ] {level level' : Nat} {R : σ → τ → Prop}

/-- On carriers in step the trails go on alike. -/
theorem Mirrors.abreast (hR : Mirrors level level' R) (acts acts' : List Act) :
    Mirrors level level' (Trail.Abreast level level' R acts acts') where
  read h max := h.note _ (hR.read h.1 max)
  receive h n z := h.note _ (hR.receive h.1 n z)
  accept h bs := h.note _ (hR.accept h.1 bs)
  flush h := h.note _ (hR.flush h.1)

end Carrier

/-! ## What was heard and said -/

namespace Ledger

/-- All that was written. -/
def said (l : Ledger) : Bytes := (l.sent ++ l.pending.toList).flatMap Message.bytes

theorem said_read (n : Nat) (l : Ledger) : (l.read n).said = l.said := rfl

theorem said_write (bs : Bytes) (l : Ledger) : (l.write bs).said = l.said ++ bs := by
  unfold write
  split
  · rename_i hb
    rw [hb, List.append_nil]
  · cases hp : l.pending <;> simp [said, hp]

theorem said_flush (l : Ledger) : l.flush.said = l.said := by
  simp [said, flush]

end Ledger

namespace Trail

variable {ε α σ : Type} [Carrier σ] {level : Nat} {r r' : Trail σ}

/-- A message is written only if all of it was put into the carrier. -/
theorem acceptAll_ok {fuel : Nat} {m : Bytes} (hm : m.length ≤ fuel)
    (h : Carrier.acceptAll level fuel m r = (.ok (), r')) :
    ∃ events : List Event, r'.acts = r.acts ++ events.map (.on level) ∧
      events.flatMap Event.got = [] ∧ events.flatMap Event.put = m := by
  induction fuel generalizing r m with
  | zero =>
    obtain rfl : m = [] := List.eq_nil_of_length_eq_zero (by omega)
    cases h
    exact ⟨[], (List.append_nil _).symm, rfl, rfl⟩
  | succ fuel ih =>
    rw [Carrier.acceptAll] at h
    split at h
    · rename_i hnil
      cases h
      exact ⟨[], (List.append_nil _).symm, rfl, hnil.symm⟩
    · rcases haccept : Carrier.accept level m r with ⟨(_ | n) | e | _, t⟩ <;> rw [haccept] at h
      · cases h
      · have hone : t.acts = r.acts ++ [.on level (.write m (.ok (n + 1)))] := acts_of_note haccept
        have hlen : (m.drop (n + 1)).length ≤ fuel := by
          rw [List.length_drop]
          omega
        obtain ⟨events, hacts, hgot, hput⟩ := ih hlen h
        refine ⟨.write m (.ok (n + 1)) :: events, ?_, hgot, ?_⟩
        · rw [hacts, hone, List.append_assoc]
          rfl
        · show m.take (n + 1) ++ events.flatMap Event.put = m
          rw [hput, List.take_append_drop]
      · cases h
      · cases h

/-- A run that has a result heard the bytes that it got and said the bytes that it put. -/
theorem hears_of_run {c : Conversation ε α} {a : α} (h : c.run level r = (.ok a, r'))
    (l : Ledger) :
    ∃ (events : List Event) (l' : Ledger), r'.acts = r.acts ++ events.map (.on level) ∧
      c.Hears l (events.flatMap Event.got) (.ok a) l' ∧
      l'.said = l.said ++ events.flatMap Event.put := by
  induction c generalizing r l with
  | done b =>
    cases h
    exact ⟨[], l, (List.append_nil _).symm, ⟨rfl, rfl, rfl⟩, (List.append_nil _).symm⟩
  | fail e => cases h
  | write m f next ih =>
    rw [Conversation.run] at h
    rcases hwrite : Carrier.write level m r with ⟨_ | _ | _, t⟩ <;> rw [hwrite] at h
    · obtain ⟨first, hacts, hgot, hput⟩ := acceptAll_ok (Nat.le_refl _) hwrite
      obtain ⟨rest, l', hacts', hheard, hsaid⟩ := ih h (l.write m)
      refine ⟨first ++ rest, l', ?_, ?_, ?_⟩
      · rw [hacts', hacts, List.map_append, List.append_assoc]
      · rw [List.flatMap_append, hgot]
        exact hheard
      · rw [hsaid, Ledger.said_write, List.flatMap_append, hput, List.append_assoc]
    · cases h
    · cases h
  | flush f next ih =>
    rw [Conversation.run] at h
    rcases hflush : Carrier.flush level r with ⟨_ | _ | _, t⟩ <;> rw [hflush] at h
    · have hone : t.acts = r.acts ++ [.on level (.flush (.ok ()))] := acts_of_note hflush
      obtain ⟨rest, l', hacts, hheard, hsaid⟩ := ih h l.flush
      rw [Ledger.said_flush] at hsaid
      refine ⟨.flush (.ok ()) :: rest, l', ?_, hheard, hsaid⟩
      rw [hacts, hone, List.append_assoc]
      rfl
    · cases h
    · cases h
  | receive n z f next ih =>
    rw [Conversation.run] at h
    rcases hreceive : Carrier.receive level n z r with ⟨v | _ | _, t⟩ <;> rw [hreceive] at h
    · have hone : t.acts = r.acts ++ [.on level (.read (.ok v.toList))] :=
        (acts_of_note hreceive :)
      obtain ⟨rest, l', hacts, hheard, hsaid⟩ := ih v h (l.read n)
      refine ⟨.read (.ok v.toList) :: rest, l', ?_, ⟨v, _, rfl, hheard⟩, hsaid⟩
      rw [hacts, hone, List.append_assoc]
      rfl
    · cases h
    · cases h

end Trail

end ProxyTunnel
