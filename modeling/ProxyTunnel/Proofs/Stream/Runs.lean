import ProxyTunnel.Stream.Carrier
import ProxyTunnel.Handshake.Basic

/-!
# Runs of conversations

Runs on any carrier at all: one conversation behind another runs behind it (`run_bind`), no run ends
with an error that the conversation can not end with (`Never.run`), and what holds between the
states before and behind every operation holds between those before and behind a run
(`Respects.run`).
-/

namespace ProxyTunnel

/-- The outcome of what does not wait. -/
def Outcome.ofExcept {ε α : Type} : Except ε α → Outcome ε α
  | .ok a => .ok a
  | .error e => .error e

theorem Outcome.ofExcept_inj {ε α : Type} {r r' : Except ε α} (h : ofExcept r = ofExcept r') :
    r = r' := by
  cases r <;> cases r' <;> cases h <;> rfl

theorem Outcome.map_eq_ok {ε α β : Type} {f : α → β} {o : Outcome ε α} {b : β}
    (h : o.map f = .ok b) : ∃ a, o = .ok a ∧ f a = b := by
  cases o with
  | ok a => exact ⟨a, rfl, Outcome.ok.inj h⟩
  | error e => cases h
  | stalled => cases h

namespace Conversation

variable {ε ε' α β σ : Type} [Carrier σ] {level : Nat}

theorem run_bind (c : Conversation ε α) (k : α → Conversation ε β) (s : σ) :
    (c >>= k).run level s =
      match c.run level s with
      | (.ok a, s') => (k a).run level s'
      | (.error e, s') => (.error e, s')
      | (.stalled, s') => (.stalled, s') := by
  show (c.bind k).run level s = _
  induction c generalizing s with
  | done a => rfl
  | fail e => rfl
  | write m f next ih =>
    rw [bind, run, run]
    rcases Carrier.write level m s with ⟨_ | _ | _, s'⟩
    · exact ih s'
    · rfl
    · rfl
  | flush f next ih =>
    rw [bind, run, run]
    rcases Carrier.flush level s with ⟨_ | _ | _, s'⟩
    · exact ih s'
    · rfl
    · rfl
  | receive n z f next ih =>
    rw [bind, run, run]
    rcases Carrier.receive level n z s with ⟨v | _ | _, s'⟩
    · exact ih v s'
    · rfl
    · rfl

/-! ## States before and behind -/

end Conversation

/-- `R` relates every state to itself, and to all that may come of operations on it. -/
structure Carrier.Respects {σ : Type} [Carrier σ] (level : Nat) (R : σ → σ → Prop) : Prop where
  refl (s : σ) : R s s
  trans {s₁ s₂ s₃ : σ} : R s₁ s₂ → R s₂ s₃ → R s₁ s₃
  accept (bs : Bytes) (s : σ) : R s (Carrier.accept level bs s).2
  flush (s : σ) : R s (Carrier.flush level s).2
  receive (n : Nat) (atEnd : Fault) (s : σ) : R s (Carrier.receive level n atEnd s).2

namespace Carrier.Respects

variable {ε α σ : Type} [Carrier σ] {level : Nat} {R : σ → σ → Prop}

theorem acceptAll (h : Respects level R) (fuel : Nat) (bs : Bytes) (s : σ) :
    R s (Carrier.acceptAll level fuel bs s).2 := by
  induction fuel generalizing s bs with
  | zero => exact h.refl s
  | succ fuel ih =>
    rw [Carrier.acceptAll]
    split
    · exact h.refl s
    · have ha := h.accept bs s
      generalize Carrier.accept level bs s = step at ha ⊢
      rcases step with ⟨(_ | k) | e | _, s'⟩
      · exact ha
      · exact h.trans ha (ih _ s')
      · exact ha
      · exact ha

theorem run (h : Respects level R) (c : Conversation ε α) (s : σ) : R s (c.run level s).2 := by
  induction c generalizing s with
  | done a => exact h.refl s
  | fail e => exact h.refl s
  | write m f next ih =>
    have hw : R s (Carrier.write level m s).2 := h.acceptAll m.length m s
    rw [Conversation.run]
    generalize Carrier.write level m s = step at hw ⊢
    rcases step with ⟨_ | e | _, s'⟩
    · exact h.trans hw (ih s')
    · exact hw
    · exact hw
  | flush f next ih =>
    have hf := h.flush s
    rw [Conversation.run]
    generalize Carrier.flush level s = step at hf ⊢
    rcases step with ⟨_ | e | _, s'⟩
    · exact h.trans hf (ih s')
    · exact hf
    · exact hf
  | receive n z f next ih =>
    have hr := h.receive n z s
    rw [Conversation.run]
    generalize Carrier.receive level n z s = step at hr ⊢
    rcases step with ⟨v | e | _, s'⟩
    · exact h.trans hr (ih v s')
    · exact hr
    · exact hr

end Carrier.Respects

namespace Conversation

variable {ε ε' α β σ : Type} [Carrier σ] {level : Nat}

/-! ## Errors -/

/-- Nothing that may happen ends the conversation with an error that has `P`. -/
def Never (P : ε → Prop) : Conversation ε α → Prop
  | .done _ => True
  | .fail e => ¬P e
  | .write _ f next | .flush f next => (∀ fault, ¬P (f fault)) ∧ Never P next
  | .receive _ _ f next => (∀ fault, ¬P (f fault)) ∧ ∀ v, Never P (next v)

theorem never_ofExcept {P : ε → Prop} {x : Except ε α} (hx : ∀ e, x = .error e → ¬P e) :
    (ofExcept x).Never P := by
  cases x with
  | error e => exact hx e rfl
  | ok a => trivial

theorem Never.bind {P : ε → Prop} {c : Conversation ε α} {k : α → Conversation ε β}
    (hc : c.Never P) (hk : ∀ a, (k a).Never P) : (c >>= k).Never P := by
  show (c.bind k).Never P
  induction c with
  | done a => exact hk a
  | fail e => exact hc
  | write m f next ih => exact ⟨hc.1, ih hc.2⟩
  | flush f next ih => exact ⟨hc.1, ih hc.2⟩
  | receive n z f next ih => exact ⟨hc.1, fun v => ih v (hc.2 v)⟩

theorem Never.mapError {P : ε' → Prop} {f : ε → ε'} {c : Conversation ε α}
    (hc : c.Never fun e => P (f e)) : (c.mapError f).Never P := by
  induction c with
  | done a => trivial
  | fail e => exact hc
  | write m g next ih => exact ⟨hc.1, ih hc.2⟩
  | flush g next ih => exact ⟨hc.1, ih hc.2⟩
  | receive n z g next ih => exact ⟨hc.1, fun v => ih v (hc.2 v)⟩

theorem Never.run {P : ε → Prop} {c : Conversation ε α} (hc : c.Never P) {s s' : σ} {e : ε}
    (h : c.run level s = (.error e, s')) : ¬P e := by
  induction c generalizing s with
  | done a => cases h
  | fail e =>
    cases h
    exact hc
  | write m f next ih =>
    rw [Conversation.run] at h
    split at h
    · exact ih hc.2 h
    · cases h
      exact hc.1 _
    · cases h
  | flush f next ih =>
    rw [Conversation.run] at h
    split at h
    · exact ih hc.2 h
    · cases h
      exact hc.1 _
    · cases h
  | receive n z f next ih =>
    rw [Conversation.run] at h
    split at h
    · exact ih _ (hc.2 _) h
    · cases h
      exact hc.1 _
    · cases h

end Conversation

end ProxyTunnel
