import ProxyTunnel.Proofs.Stream.Order

/-!
# Carriers in step

Two carriers, of different kinds perhaps, on which every operation comes to the same. Such a
relation between their states is shown for single operations; it then holds for runs.

* `Mirrors.run`: of a conversation there comes the same on both, and they are in step behind it;
* `Mirrors.runAll`: so it is with single operations, one after another.
-/

namespace ProxyTunnel

/-- What comes of an operation is the same on both sides, and `R` holds behind it. -/
structure InStep {α σ τ : Type} (R : σ → τ → Prop) (x : α × σ) (y : α × τ) : Prop where
  outcome : x.1 = y.1
  behind : R x.2 y.2

theorem InStep.exists_eq {α σ τ : Type} {R : σ → τ → Prop} {x : α × σ} {y : α × τ}
    (h : InStep R x y) : ∃ a s t, x = (a, s) ∧ y = (a, t) ∧ R s t :=
  ⟨x.1, x.2, y.2, rfl, Prod.ext h.outcome.symm rfl, h.behind⟩

namespace Carrier

variable {ε α σ τ : Type} [Carrier σ] [Carrier τ] {level level' : Nat} {R : σ → τ → Prop}

/-- Where `R` holds, a level of one carrier and a level of the other are in step: to read, to write
and to flush is the same on both. Nothing is said of how writing ends. -/
structure Mirrors (level level' : Nat) (R : σ → τ → Prop) : Prop where
  read {s : σ} {t : τ} (h : R s t) (max : Nat) :
    InStep R (Carrier.read level max s) (Carrier.read level' max t)
  receive {s : σ} {t : τ} (h : R s t) (n : Nat) (atEnd : Fault) :
    InStep R (Carrier.receive level n atEnd s) (Carrier.receive level' n atEnd t)
  accept {s : σ} {t : τ} (h : R s t) (bs : Bytes) :
    InStep R (Carrier.accept level bs s) (Carrier.accept level' bs t)
  flush {s : σ} {t : τ} (h : R s t) : InStep R (Carrier.flush level s) (Carrier.flush level' t)

namespace Mirrors

variable {s : σ} {t : τ}

theorem acceptAll (hR : Mirrors level level' R) (h : R s t) (fuel : Nat) (bs : Bytes) :
    InStep R (Carrier.acceptAll level fuel bs s) (Carrier.acceptAll level' fuel bs t) := by
  induction fuel generalizing s t bs with
  | zero => exact ⟨rfl, h⟩
  | succ fuel ih =>
    rw [Carrier.acceptAll, Carrier.acceptAll]
    split
    · exact ⟨rfl, h⟩
    · obtain ⟨o, s', t', hs, ht, h'⟩ := (hR.accept h bs).exists_eq
      rw [hs, ht]
      rcases o with (_ | k) | e | _
      · exact ⟨rfl, h'⟩
      · exact ih h' _
      · exact ⟨rfl, h'⟩
      · exact ⟨rfl, h'⟩

theorem write (hR : Mirrors level level' R) (h : R s t) (bs : Bytes) :
    InStep R (Carrier.write level bs s) (Carrier.write level' bs t) :=
  hR.acceptAll h bs.length bs

theorem run (hR : Mirrors level level' R) (h : R s t) (c : Conversation ε α) :
    InStep R (c.run level s) (c.run level' t) := by
  induction c generalizing s t with
  | done a => exact ⟨rfl, h⟩
  | fail e => exact ⟨rfl, h⟩
  | write m f next ih =>
    obtain ⟨o, s', t', hs, ht, h'⟩ := (hR.write h m).exists_eq
    rw [Conversation.run, Conversation.run, hs, ht]
    cases o with
    | ok a => exact ih h'
    | error e => exact ⟨rfl, h'⟩
    | stalled => exact ⟨rfl, h'⟩
  | flush f next ih =>
    obtain ⟨o, s', t', hs, ht, h'⟩ := (hR.flush h).exists_eq
    rw [Conversation.run, Conversation.run, hs, ht]
    cases o with
    | ok a => exact ih h'
    | error e => exact ⟨rfl, h'⟩
    | stalled => exact ⟨rfl, h'⟩
  | receive n z f next ih =>
    obtain ⟨o, s', t', hs, ht, h'⟩ := (hR.receive h n z).exists_eq
    rw [Conversation.run, Conversation.run, hs, ht]
    cases o with
    | ok v => exact ih v h'
    | error e => exact ⟨rfl, h'⟩
    | stalled => exact ⟨rfl, h'⟩

theorem use (hR : Mirrors level level' R) (h : R s t) {use : Use} (hu : use ≠ .shutdown) :
    InStep R (use.run level s) (use.run level' t) := by
  cases use with
  | read max =>
    obtain ⟨ho, h'⟩ := hR.read h max
    exact ⟨congrArg Event.read ho, h'⟩
  | write offered =>
    obtain ⟨ho, h'⟩ := hR.accept h offered
    exact ⟨congrArg (Event.write offered) ho, h'⟩
  | flush =>
    obtain ⟨ho, h'⟩ := hR.flush h
    exact ⟨congrArg Event.flush ho, h'⟩
  | shutdown => exact absurd rfl hu

theorem runAll (hR : Mirrors level level' R) (h : R s t) {uses : List Use}
    (hu : .shutdown ∉ uses) : InStep R (Use.runAll level uses s) (Use.runAll level' uses t) := by
  induction uses generalizing s t with
  | nil => exact ⟨rfl, h⟩
  | cons use uses ih =>
    rw [List.mem_cons, not_or] at hu
    obtain ⟨ho, h'⟩ := hR.use h (Ne.symm hu.1)
    obtain ⟨hos, h''⟩ := ih h' hu.2
    exact ⟨congr (congrArg List.cons ho) hos, h''⟩

end Mirrors

end Carrier

end ProxyTunnel
