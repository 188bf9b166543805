import ProxyTunnel.Proofs.Stream.Recorder
import ProxyTunnel.Proofs.Stream.Saying

/-!
# Bytes pass in order

Whatever is done on a scripted stream, and whatever fails on it, the bytes come out in the order in
which they are there, none of them twice and none left out, and so do the bytes that go in
(`Carries`). That holds for every operation, so it holds for whole runs:

* `use_carries`, `runAll_carries`: single operations, and any number of them;
* `carries_respects`: runs of conversations.
-/

namespace ProxyTunnel

namespace Script

/-- Between two states of a stream the bytes `got` were read from it and it took the bytes `put`. -/
structure Carries (s : Script) (got put : Bytes) (s' : Script) : Prop where
  unread : s.unread = got ++ s'.unread
  consumed : s'.consumed = s.consumed + got.length
  said : s'.said = s.said ++ put
  /-- If the other end says some bytes and ends, then the rest of them is still to come. -/
  remains {S : Bytes} : s.Says S → ∃ rest, S = got ++ rest ∧ s'.Says rest

theorem Carries.refl (s : Script) : s.Carries [] [] s :=
  ⟨rfl, rfl, (List.append_nil _).symm, fun h => ⟨_, rfl, h⟩⟩

theorem Carries.trans {s₁ s₂ s₃ : Script} {got got' put put' : Bytes}
    (h : s₁.Carries got put s₂) (h' : s₂.Carries got' put' s₃) :
    s₁.Carries (got ++ got') (put ++ put') s₃ := by
  constructor
  · rw [h.unread, h'.unread, List.append_assoc]
  · rw [h'.consumed, h.consumed, List.length_append, Nat.add_assoc]
  · rw [h'.said, h.said, List.append_assoc]
  · intro S hS
    obtain ⟨rest, rfl, hrest⟩ := h.remains hS
    obtain ⟨left, rfl, hleft⟩ := h'.remains hrest
    exact ⟨left, (List.append_assoc ..).symm, hleft⟩

theorem take_carries (s : Script) (m : Bytes) : s.Carries [] m (s.take m) := by
  constructor
  · rw [unread, unread, items_take]
    rfl
  · rw [consumed_take]
    rfl
  · exact said_take s m
  · exact fun h => ⟨_, rfl, h.take m⟩

/-! ## What is left to read -/

section

variable (written : Nat) (isShut : Bool) (items : List ReadItem)

theorem unread_putBack (bs : Bytes) :
    ({ items := putBack bs items } : Script).unread = bs ++ ({ items } : Script).unread := by
  unfold putBack
  split
  · rename_i hb
    rw [hb]
    rfl
  · simp [unread]

theorem unread_fetch (n : Nat) :
    ({ items } : Script).unread = (fetch written isShut items n).bytes ++
      ({ items := (fetch written isShut items n).items } : Script).unread := by
  fun_induction fetch written isShut items n with
  | case3 bs items n hn =>
    rw [unread_putBack, ← List.append_assoc, List.take_append_drop]
    simp [unread]
  | case4 bs items n hn ih =>
    show _ = bs ++ _ ++ _
    rw [List.append_assoc, Fetched.cons, ← ih]
    simp [unread]
  | case5 items n ih => exact ih
  | case10 k items n hk ih => exact ih
  | case12 items n hk ih => exact ih
  | _ => rfl

theorem unread_fetchSome (max : Nat) :
    ({ items } : Script).unread = (fetchSome written isShut max items).bytes ++
      ({ items := (fetchSome written isShut max items).items } : Script).unread := by
  fun_induction fetchSome written isShut max items with
  | case2 items ih => exact ih
  | case3 bs items hb =>
    rw [unread_putBack, ← List.append_assoc, List.take_append_drop]
    simp [unread]
  | case8 k items hk ih => exact ih
  | case10 items hk ih => exact ih
  | _ => rfl

end

/-- Reading carries what it gets, if nothing that is there gets lost. -/
theorem advance_carries {s : Script} {f : Fetched}
    (hunread : s.unread = f.bytes ++ ({ items := f.items } : Script).unread)
    (hremains : ∀ {S}, Delivers s.items S → ∃ rest, S = f.bytes ++ rest ∧ Delivers f.items rest) :
    s.Carries f.bytes [] (s.advance f) := by
  refine ⟨hunread, rfl, (List.append_nil _).symm, fun h => ?_⟩
  obtain ⟨rest, hS, hrest⟩ := hremains h.items
  exact ⟨rest, hS, hrest, h.takes, h.unlimited, h.flushes⟩

end Script

/-! ## Operations -/

/-- A single operation. -/
inductive Use where
  | read (max : Nat)
  | write (offered : Bytes)
  | flush
  | shutdown
  deriving DecidableEq, Repr

namespace Use

variable {σ : Type} [Carrier σ]

/-- What comes of an operation on one level of a carrier. -/
def run (level : Nat) : Use → σ → Event × σ
  | .read max, s => let (o, s) := Carrier.read level max s; (.read o, s)
  | .write offered, s => let (o, s) := Carrier.accept level offered s; (.write offered o, s)
  | .flush, s => let (o, s) := Carrier.flush level s; (.flush o, s)
  | .shutdown, s => let (o, s) := Carrier.shutdown level s; (.shutdown o, s)

/-- What comes of operations one after another. -/
def runAll (level : Nat) : List Use → σ → List Event × σ
  | [], s => ([], s)
  | use :: uses, s =>
    let (e, s) := use.run level s
    let (es, s) := runAll level uses s
    (e :: es, s)

end Use

namespace Script

theorem read_carries (s : Script) (max : Nat) :
    s.Carries (Event.got (.read (s.read max).1)) [] (s.read max).2 := by
  have h := advance_carries (s := s) (unread_fetchSome s.accepted s.isShut s.items max)
    fun h => h.fetchSome s.accepted s.isShut max
  rw [read]
  cases hstop : (fetchSome s.accepted s.isShut max s.items).stop with
  | complete => exact h
  | ended => exact h
  | _ =>
    have hnil : (fetchSome s.accepted s.isShut max s.items).bytes = [] :=
      fetchSome_bytes (by simp [hstop])
    rw [hnil] at h
    exact h

theorem receive_carries (s : Script) (n : Nat) (atEnd : Fault) :
    s.Carries (s.fetched n).bytes [] (s.receive n atEnd).2 := by
  have h := advance_carries (s := s) (unread_fetch s.accepted s.isShut s.items n)
    fun h => h.fetch s.accepted s.isShut n
  show s.Carries _ [] (Carrier.receive 0 n atEnd s).2
  rw [receive_snd]
  exact h

theorem accept_carries (s : Script) (offered : Bytes) :
    s.Carries [] (Event.put (.write offered (s.accept offered).1)) (s.accept offered).2 := by
  have htaken := s.take_carries (offered.take (s.room offered.length))
  rw [accept]
  split
  · split
    · exact .refl s
    · exact htaken
  · exact htaken

theorem flush_carries (s : Script) : s.Carries [] [] s.flush.2 := by
  have hflushed : s.Carries [] [] s.flushed :=
    ⟨rfl, rfl, (said_flushed s).trans (List.append_nil _).symm,
      fun h => ⟨_, rfl, h.items, h.takes, h.unlimited, h.flushes⟩⟩
  have hfailed : s.Carries [] [] { s with flushes := s.flushes + 1 } :=
    ⟨rfl, rfl, (List.append_nil _).symm,
      fun h => ⟨_, rfl, h.items, h.takes, h.unlimited, h.flushes⟩⟩
  rw [flush]
  dsimp only
  split
  · split
    · exact hfailed
    · exact hflushed
  · exact hflushed

theorem shutdown_carries (s : Script) : s.Carries [] [] s.shutdown.2 := by
  rw [shutdown]
  split
  · exact .refl s
  · exact ⟨rfl, rfl, (List.append_nil _).symm,
      fun h => ⟨_, rfl, h.items, h.takes, h.unlimited, h.flushes⟩⟩

theorem use_carries (use : Use) (s : Script) :
    s.Carries (use.run 0 s).1.got (use.run 0 s).1.put (use.run 0 s).2 := by
  cases use with
  | read max => exact s.read_carries max
  | write offered => exact s.accept_carries offered
  | flush => exact s.flush_carries
  | shutdown => exact s.shutdown_carries

theorem runAll_carries (uses : List Use) (s : Script) :
    s.Carries ((Use.runAll 0 uses s).1.flatMap Event.got) ((Use.runAll 0 uses s).1.flatMap Event.put)
      (Use.runAll 0 uses s).2 := by
  induction uses generalizing s with
  | nil => exact .refl s
  | cons use uses ih => exact (use_carries use s).trans (ih _)

/-- Whatever a conversation does, and however it ends, the stream carries some bytes each way. -/
theorem carries_respects :
    Carrier.Respects 0 fun s s' : Script => ∃ got put, s.Carries got put s' where
  refl s := ⟨[], [], .refl s⟩
  trans := by
    intro s₁ s₂ s₃ ⟨_, _, h⟩ ⟨_, _, h'⟩
    exact ⟨_, _, h.trans h'⟩
  accept bs s := ⟨_, _, s.accept_carries bs⟩
  flush s := ⟨_, _, s.flush_carries⟩
  receive n atEnd s := ⟨_, _, s.receive_carries n atEnd⟩

end Script

end ProxyTunnel
